import CommittedChoice.Json.Syntax
import CommittedChoice.Proofs.Json.Derivation
import CommittedChoice.Proofs.Reading.Characters

/-! Tokens with the white space after them, and items between brackets. White space is taken as far
as it goes, so what is read next must not begin with any; an item is taken up to the comma or the
bracket after it. -/
namespace CommittedChoice.Json

variable {ι : Type} {τ : ι → Type} {call : (name : ι) → Parser (τ name)} {limit : Nat}
  {text blank left : List Char} {char : Char}

/-- A text that does not begin with white space. -/
def Solid (text : List Char) : Prop := ∀ char ∈ text.head?, ¬Text.isSpace char

/-- What comes after a value and its white space. -/
def Ended (left : List Char) : Prop := ∀ char ∈ left.head?, char ∈ [',', ']', '\x7d']

/-- A text that begins, and not with white space. -/
def Begins (text : List Char) : Prop := ∃ first rest, text = first :: rest ∧ ¬Text.isSpace first

theorem solid_cons (solid : ¬Text.isSpace char) (rest : List Char) : Solid (char :: rest) :=
  Text.forall_head solid rest

theorem Begins.ne_nil (begins : Begins text) : text ≠ [] := by
  obtain ⟨first, rest, rfl, _⟩ := begins
  exact List.cons_ne_nil first rest

theorem Begins.append (begins : Begins text) (rest : List Char) : Begins (text ++ rest) := by
  obtain ⟨first, others, rfl, solid⟩ := begins
  exact ⟨first, others ++ rest, rfl, solid⟩

theorem Begins.solid (begins : Begins text) (rest : List Char) : Solid (text ++ rest) := by
  obtain ⟨first, others, rfl, solid⟩ := begins
  exact solid_cons solid (others ++ rest)

theorem ended_cons (closing : char ∈ [',', ']', '\x7d']) (rest : List Char) :
    Ended (char :: rest) :=
  Text.forall_head closing rest

theorem ended_nil : Ended [] := by
  rintro _ ⟨⟩

theorem closing_spec : ∀ char ∈ [',', ']', '\x7d'], ¬Text.isSpace char ∧ ¬char.isDigit ∧
    char ≠ '.' ∧ char ≠ 'e' ∧ char ≠ 'E' := by simp [Text.isSpace]

theorem isSpace_spec (space : Text.isSpace char) :
    ¬char.isDigit ∧ char ≠ '.' ∧ char ≠ 'e' ∧ char ≠ 'E' := by
  simp only [Text.isSpace, List.mem_cons, List.not_mem_nil, or_false, decide_eq_true_eq] at space
  rcases space with rfl | rfl | rfl | rfl | rfl | rfl | rfl | rfl <;> decide

theorem Ended.solid (ended : Ended left) : Solid left :=
  fun char head => (closing_spec char (ended char head)).1

theorem takes_lexeme {α : Type} {g : Grammar τ α} {inner : α}
    (first : (g.parser call limit).Takes text (blank ++ left) (.success inner))
    (spaced : Blank blank) (solid : Solid left) (rounds : blank.length < limit) :
    ((lexeme g).parser call limit).Takes (text ++ blank) left (.success inner) :=
  first.seqLeft (Grammar.takes_spaces spaced solid rounds)

theorem takes_structural (known : Structural char text) (solid : Solid left)
    (rounds : text.length ≤ limit) :
    ((structural char : Grammar τ Char).parser call limit).Takes text left (.success char) := by
  obtain ⟨spaced⟩ := known
  exact takes_lexeme Grammar.takes_char spaced solid rounds

theorem refuses_structural (differs : text.head? ≠ some char) :
    ((structural char : Grammar τ Char).parser call limit).Refuses text :=
  (Grammar.refuses_char differs).seqLeft

theorem Structural.solid (known : Structural char text) (solid : ¬Text.isSpace char) :
    Solid (text ++ left) := by
  obtain ⟨_⟩ := known
  exact solid_cons solid _

theorem Bracketed.begins_with {α : Type} {R : α → List Char → Prop} {values : List α}
    {first last : Char} (known : Bracketed first last R values text) :
    ∃ rest, text = first :: rest := by
  obtain ⟨⟨_⟩, _⟩ := known
  exact ⟨_, rfl⟩

theorem Bracketed.two_le {α : Type} {R : α → List Char → Prop} {values : List α}
    {first last : Char} (known : Bracketed first last R values text) : 2 ≤ text.length := by
  obtain ⟨⟨_⟩, _⟩ := known
  simp only [List.length_append, List.length_cons]
  omega

/-- Between the brackets every item is taken up to the comma or the bracket after it. -/
theorem takes_bracketed {α : Type} {item : Grammar τ α} {R : α → List Char → Prop}
    {values : List α} {first last : Char} (known : Bracketed first last R values text)
    (spaced : Blank blank) (solid : Solid left) (closing : last ∈ [']', '\x7d'])
    (begins : ∀ value piece, R value piece → Begins piece)
    (items : ∀ value piece rest, R value piece → piece.length + 2 ≤ text.length → Ended rest →
      (item.parser call limit).Takes piece rest (.success value))
    (refused : ∀ rest, (item.parser call limit).Refuses (last :: rest))
    (rounds : (text ++ blank).length ≤ limit) :
    ((Grammar.between (structural first) (structural last) (.sepBy item (structural ','))).parser
      call limit).Takes (text ++ blank) left (.success values) := by
  obtain ⟨opened, listed⟩ := known
  rename_i opening body
  have positive : 0 < opening.length := by
    obtain ⟨_⟩ := opened
    exact Nat.succ_pos _
  simp only [List.length_append, List.length_singleton] at rounds items
  have few : values.length ≤ body.length :=
    listed.length_le fun value piece known => (begins value piece known).ne_nil
  have bounded : Listed (fun value piece => R value piece ∧ piece.length ≤ body.length)
      (fun separator => Structural ',' separator ∧ separator.length ≤ body.length) values body :=
    listed.mono (fun _ _ known short => ⟨known, short⟩) fun _ known short => ⟨known, short⟩
  have apart : ∀ char ∈ [']', '\x7d'], char ≠ ',' ∧ ¬Text.isSpace char := by
    simp [Text.isSpace]
  obtain ⟨unseparated, visible⟩ := apart last closing
  have looped : ((Grammar.sepBy item (structural ',')).parser call limit).Takes body
      (last :: blank ++ left) (.success values) := by
    have stop : Ended (last :: blank ++ left) := ended_cons (List.mem_cons_of_mem ',' closing) _
    refine .sepBy bounded ?_ ?_ ?_ stop (refused _) (refuses_structural ?_) (by omega)
    · rintro value piece rest ⟨known, short⟩ ended
      exact items value piece rest known (by omega) ended
    · rintro separator value piece rest ⟨between, short⟩ ⟨known, _⟩
      exact ⟨',', takes_structural between ((begins value piece known).solid rest) (by omega)⟩
    · rintro _ rest ⟨⟨_⟩, _⟩
      exact ended_cons (by decide) _
    · simpa using unseparated
  have inside : Solid (body ++ last :: blank ++ left) := by
    cases listed with
    | nil => exact solid_cons visible _
    | cons known _ =>
      rw [List.append_assoc, List.append_assoc]
      exact (begins _ _ known).solid _
  have closed : opening ++ body ++ [last] ++ blank = opening ++ (body ++ last :: blank) := by simp
  rw [closed]
  exact .between (takes_structural opened inside (by omega)) looped
    (takes_structural (.mk spaced) solid (by rw [List.length_cons]; omega))

theorem refuses_bracketed {α : Type} {item : Grammar τ α} {first last : Char}
    (differs : text.head? ≠ some first) :
    ((Grammar.between (structural first) (structural last) (.sepBy item (structural ','))).parser
      call limit).Refuses text :=
  (refuses_structural differs).between

theorem yields_lexeme {α : Type} {g : Grammar τ α} {R : α → List Char → Prop}
    (known : (g.parser call limit).Yields R) :
    ((lexeme g).parser call limit).Yields (Lexeme R) :=
  known.seqLeft fun _ _ read => Grammar.yields_spaces.mono fun _ _ spaced => .mk read spaced

theorem yields_structural :
    ((structural char : Grammar τ Char).parser call limit).Yields
      fun _ text => Structural char text := by
  apply Grammar.yields_char.seqLeft
  rintro _ _ ⟨rfl, rfl⟩
  exact Grammar.yields_spaces.mono fun _ _ spaced => .mk spaced

/-- A list gives a broken item back and succeeds without it: what it has read is a list all the
same. -/
theorem yields_bracketed {α : Type} {item : Grammar τ α} {R : α → List Char → Prop}
    {first last : Char} (calls : ∀ name, (call name).Local)
    (items : (item.parser call limit).Yields R) :
    ((Grammar.between (structural first) (structural last) (.sepBy item (structural ','))).parser
      call limit).Yields (Lexeme (Bracketed first last R)) := by
  refine .between yields_structural fun _ opening opened => ?_
  have listed : ((Grammar.sepBy item (structural ',')).parser call limit).Yields
      (Listed R (Structural ',')) :=
    items.sepBy yields_structural (Grammar.parser_local calls limit _)
      (Grammar.parser_local calls limit _) limit
  refine listed.seqLeft fun values body known => yields_structural.mono ?_
  rintro _ _ ⟨spaced⟩
  have read : Lexeme (Bracketed first last R) values (opening ++ body ++ [last] ++ _) :=
    .mk (.mk opened known) spaced
  simpa using read

theorem Lexeme.begins {α : Type} {R : α → List Char → Prop} {inner : α}
    (known : Lexeme R inner text) (begins : ∀ value piece, R value piece → Begins piece) :
    Begins text := by
  obtain ⟨read, _⟩ := known
  exact (begins _ _ read).append _

end CommittedChoice.Json
