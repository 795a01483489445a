import CommittedChoice.Proofs.Json.Brackets
import CommittedChoice.Proofs.Json.Members
import CommittedChoice.Proofs.Json.Numbers
import CommittedChoice.Proofs.Json.Strings

/-! One level of a value: what the parser of values takes, told from what the parser of the values
inside takes. How strings and numbers are written, and how numbers are parsed, is left open. A
parser that covers the texts of some length makes the values around it cover those that are longer
by one, and so the rule of values covers all texts as long as it may be entered deep. -/
namespace CommittedChoice.Json

variable {ι : Type} {τ : ι → Type} {call : (name : ι) → Parser (τ name)} {limit bound : Nat}
  {quoted : String → List Char → Prop} {counted : Number → List Char → Prop}
  {R : Json → List Char → Prop} {number nested : Grammar τ Json} {value : Json}
  {text blank left : List Char} {char : Char}

/-- A value text, told from the texts of the values inside it. -/
inductive ValueForm (quoted : String → List Char → Prop) (counted : Number → List Char → Prop)
    (R : Json → List Char → Prop) : Json → List Char → Prop where
  | null : ValueForm quoted counted R .null "null".toList
  | falsehood : ValueForm quoted counted R (.bool false) "false".toList
  | truth : ValueForm quoted counted R (.bool true) "true".toList
  | number {value : Number} {text : List Char} (known : counted value text) :
      ValueForm quoted counted R (.number value) text
  | string {value : String} {text : List Char} (known : quoted value text) :
      ValueForm quoted counted R (.string value) text
  | array {text : List Char} {elements : List Json}
      (items : Bracketed '[' ']' (Lexeme R) elements text) :
      ValueForm quoted counted R (.array elements) text
  | object {text : List Char} {written members : List (String × Json)}
      (items : Bracketed '\x7b' '\x7d' (MemberText quoted (Lexeme R)) written text)
      (collected : Collects written members) : ValueForm quoted counted R (.object members) text

/-- The grammar takes the number texts for the numbers they are counted as, and refuses what
begins like no number. -/
structure Counts (number : Grammar τ Json) (counted : Number → List Char → Prop) : Prop where
  shape : ∀ ⦃value text⦄, counted value text → NumberText text
  takes : ∀ ⦃call : (name : ι) → Parser (τ name)⦄ ⦃limit value text left⦄, counted value text →
    NumberEnd left → text.length ≤ limit →
    (number.parser call limit).Takes text left (.success (.number value))
  refuses : ∀ ⦃call : (name : ι) → Parser (τ name)⦄ ⦃limit text⦄,
    (∀ char ∈ text.head?, char ≠ '-' ∧ ¬char.isDigit) → (number.parser call limit).Refuses text

/-- The parser takes the value texts of at most so many characters, with the white space after
them, and none begins with a closing bracket. -/
structure Covers (R : Json → List Char → Prop) (p : Parser Json) (bound : Nat) : Prop where
  takes : ∀ ⦃value text left⦄, Lexeme R value text → text.length ≤ bound → Ended left →
    p.Takes text left (.success value)
  refuses : 0 < bound → ∀ rest, p.Refuses (']' :: rest)

theorem Ended.numberEnd (ended : Ended left) (spaced : Blank blank) :
    NumberEnd (blank ++ left) := by
  cases blank with
  | nil => exact fun char head => (closing_spec char (ended char head)).2
  | cons first rest => exact Text.forall_head (isSpace_spec (spaced first (by simp))) _

theorem ValueForm.begins (strings : ∀ string text, quoted string text → StringText string text)
    (numbers : ∀ value text, counted value text → NumberText text)
    (known : ValueForm quoted counted R value text) : Begins text := by
  cases known with
  | null | falsehood | truth => exact ⟨_, _, rfl, by decide⟩
  | number known =>
    obtain ⟨first, rest, rfl, rfl | digit⟩ := (numbers _ _ known).head
    · exact ⟨'-', rest, rfl, by decide⟩
    · exact ⟨first, rest, rfl, fun space => (isSpace_spec space).1 digit⟩
  | string known =>
    obtain ⟨_⟩ := strings _ _ known
    exact ⟨'"', _, rfl, by decide⟩
  | array items | object items =>
    obtain ⟨rest, rfl⟩ := items.begins_with
    exact ⟨_, rest, rfl, by decide⟩

theorem MemberText.begins (strings : ∀ string text, quoted string text → StringText string text)
    {R : Json → List Char → Prop} {written : String × Json}
    (known : MemberText quoted R written text) : Begins text := by
  obtain ⟨⟨quotes, _⟩, _, _⟩ := known
  obtain ⟨_⟩ := strings _ _ quotes
  exact ⟨'"', _, rfl, by decide⟩

/-- The alternatives for a value in their order, with the characters that each begins with. -/
def alternatives (number nested : Grammar τ Json) : List ((Char → Bool) × Grammar τ Json) := [
  ((· = 'f'), keyword "false" (.bool false)),
  ((· = 'n'), keyword "null" .null),
  ((· = 't'), keyword "true" (.bool true)),
  ((· = '\x7b'), objectText nested),
  ((· = '['), arrayText nested),
  (fun char => char = '-' || char.isDigit, number),
  ((· = '"'), .map .string stringText)]

/-- Any value, with a grammar for numbers of its own. -/
def valueWith (number nested : Grammar τ Json) : Grammar τ Json :=
  lexeme (.label "value" (.choiceOf ((alternatives number nested).map Prod.snd)))

theorem takes_keyword (word : String) (value : Json) :
    ((keyword word value : Grammar τ Json).parser call limit).Takes word.toList left
      (.success value) :=
  (Parser.takes_literal word).attempt.map _

theorem refuses_keyword {word : String} {first : Char} {rest : List Char}
    (spelled : word.toList = first :: rest) (differs : text.head? ≠ some first) :
    ((keyword word value : Grammar τ Json).parser call limit).Refuses text :=
  (Parser.refuses_literal spelled differs).attempt.map _

theorem refuses_alternative (counts : Counts number counted)
    {alternative : (Char → Bool) × Grammar τ Json}
    (member : alternative ∈ alternatives number nested)
    (other : ∀ char ∈ text.head?, ¬alternative.1 char) :
    (alternative.2.parser call limit).Refuses text := by
  have apart : ∀ char, alternative.1 char → text.head? ≠ some char :=
    fun char opens head => other char head opens
  simp only [alternatives, List.mem_cons, List.not_mem_nil, or_false] at member
  rcases member with rfl | rfl | rfl | rfl | rfl | rfl | rfl
  · exact refuses_keyword rfl (apart 'f' rfl)
  · exact refuses_keyword rfl (apart 'n' rfl)
  · exact refuses_keyword rfl (apart 't' rfl)
  · exact (refuses_bracketed (apart '\x7b' rfl)).map _
  · exact (refuses_bracketed (apart '[' rfl)).map _
  · exact counts.refuses fun char head => by simpa using other char head
  · exact (refuses_string (apart '"' rfl)).map _

/-- An alternative is chosen when none before it begins with the same character. -/
theorem takes_alternative (counts : Counts number counted) (index : Nat) (first : Char)
    {opens : Char → Bool} {g : Grammar τ Json} {rest : List Char}
    (found : (alternatives number nested)[index]? = some (opens, g))
    (begins : text = first :: rest)
    (apart : ∀ alternative ∈ (alternatives number nested).take index, ¬alternative.1 first)
    (chosen : (g.parser call limit).Takes text left (.success value)) :
    ((Grammar.choiceOf ((alternatives number nested).map Prod.snd)).parser call limit).Takes text
      left (.success value) := by
  obtain ⟨bounded, same⟩ := List.getElem?_eq_some_iff.mp found
  have order : alternatives number nested =
      (alternatives number nested).take index ++
        (opens, g) :: (alternatives number nested).drop (index + 1) := by
    rw [← same, List.getElem_cons_drop, List.take_append_drop]
  rw [Grammar.parser_choiceOf, order]
  simp only [List.map_append, List.map_cons, List.map_map]
  apply Parser.Takes.choice _ chosen
  intro parser member
  obtain ⟨alternative, earlier, rfl⟩ := List.mem_map.mp member
  apply refuses_alternative counts (List.mem_of_mem_take earlier)
  subst begins
  exact Text.forall_head (apart alternative earlier) _

section Nested

variable (begins : ∀ value text, R value text → Begins text)
  (covers : Covers R (nested.parser call limit) bound) (deep : bound < limit)
include begins covers deep

theorem takes_array {elements : List Json} (known : Bracketed '[' ']' (Lexeme R) elements text)
    (spaced : Blank blank) (solid : Solid left) (short : (text ++ blank).length ≤ bound + 1) :
    ((arrayText nested).parser call limit).Takes (text ++ blank) left
      (.success (.array elements)) := by
  have least := known.two_le
  rw [List.length_append] at short
  have items : ∀ value piece rest, Lexeme R value piece → piece.length + 2 ≤ text.length →
      Ended rest → (nested.parser call limit).Takes piece rest (.success value) :=
    fun _ _ _ read shorter ended => covers.takes read (by omega) ended
  have opened : ∀ value piece, Lexeme R value piece → Begins piece :=
    fun _ _ lexeme => lexeme.begins begins
  exact (takes_bracketed known spaced solid (by decide) opened items
    (covers.refuses (by omega)) (by rw [List.length_append]; omega)).map Json.array

variable (strings : ∀ string text, quoted string text → StringText string text)
include strings

theorem takes_member {written : String × Json}
    (known : MemberText quoted (Lexeme R) written text) (short : text.length ≤ bound)
    (ended : Ended left) :
    ((member nested).parser call limit).Takes text left (.success written) := by
  cases known with
  | @mk key value name colon piece named separated valued =>
    simp only [List.length_append] at short
    cases named with
    | @mk quotes blank key written spaced =>
      simp only [List.length_append] at short
      have opened := valued.begins begins
      have taken_name : ((lexeme stringText : Grammar τ String).parser call limit).Takes
          (quotes ++ blank) (colon ++ (piece ++ left)) (.success key) :=
        takes_lexeme (takes_string (strings _ _ written) (by omega)) spaced
          (separated.solid (by decide)) (by omega)
      have taken_colon : ((structural ':' : Grammar τ Char).parser call limit).Takes colon
          (piece ++ left) (.success ':') :=
        takes_structural separated (opened.solid left) (by omega)
      exact (taken_name.seqLeft taken_colon).seqPair (covers.takes valued (by omega) ended)

theorem takes_object {written members : List (String × Json)}
    (known : Bracketed '\x7b' '\x7d' (MemberText quoted (Lexeme R)) written text)
    (collected : Collects written members) (spaced : Blank blank) (solid : Solid left)
    (short : (text ++ blank).length ≤ bound + 1) :
    ((objectText nested).parser call limit).Takes (text ++ blank) left
      (.success (.object members)) := by
  rw [List.length_append] at short
  have items : ∀ member piece rest, MemberText quoted (Lexeme R) member piece →
      piece.length + 2 ≤ text.length → Ended rest →
      ((Json.member nested).parser call limit).Takes piece rest (.success member) :=
    fun _ _ _ read shorter ended => takes_member begins covers deep strings read (by omega) ended
  have opened : ∀ member piece, MemberText quoted (Lexeme R) member piece → Begins piece :=
    fun _ _ read => read.begins strings
  have refused : ∀ rest, ((member nested).parser call limit).Refuses ('\x7d' :: rest) :=
    fun _ => (refuses_string (by simp)).seqLeft.seqLeft.seqPair
  rw [← (ofMembers_eq_iff written).mpr collected]
  exact (takes_bracketed known spaced solid (by decide) opened items refused
    (by rw [List.length_append]; omega)).map ofMembers

/-- At the top only brackets are tried. -/
theorem takes_structured (known : ValueForm quoted counted R value text)
    (structured : IsStructured value) (spaced : Blank blank) (solid : Solid left)
    (short : (text ++ blank).length ≤ bound + 1) :
    ((Grammar.orElse (objectText nested) (arrayText nested)).parser call limit).Takes
      (text ++ blank) left (.success value) := by
  cases known with
  | null | falsehood | truth | number | string => cases structured
  | array items =>
    have taken := takes_array begins covers deep items spaced solid short
    obtain ⟨rest, rfl⟩ := items.begins_with
    have refused : ((objectText nested).parser call limit).Refuses ('[' :: rest ++ blank ++ left) :=
      (refuses_bracketed (by simp)).map _
    exact .orElse_next refused taken
  | object items collected =>
    exact (takes_object begins covers deep strings items collected spaced solid short).orElse

variable (counts : Counts number counted)
include counts

/-- The brackets of a structured value take the white space after it; any other value leaves it
to the token it is. -/
theorem takes_value (known : ValueForm quoted counted R value text) (spaced : Blank blank)
    (ended : Ended left) (short : (text ++ blank).length ≤ bound + 1) :
    ((valueWith number nested).parser call limit).Takes (text ++ blank) left (.success value) := by
  have total : text.length + blank.length ≤ bound + 1 := List.length_append ▸ short
  have positive := List.length_pos_iff.mpr (known.begins strings counts.shape).ne_nil
  have scalar : ((Grammar.choiceOf ((alternatives number nested).map Prod.snd)).parser call limit
      ).Takes text (blank ++ left) (.success value) →
      ((valueWith number nested).parser call limit).Takes (text ++ blank) left (.success value) :=
    fun chosen => takes_lexeme (chosen.label "value") spaced ended.solid (by omega)
  have structured : ((Grammar.choiceOf ((alternatives number nested).map Prod.snd)).parser call
      limit).Takes (text ++ blank) left (.success value) →
      ((valueWith number nested).parser call limit).Takes (text ++ blank) left
        (.success value) := by
    intro chosen
    rw [← List.append_nil (text ++ blank)]
    exact takes_lexeme (chosen.label "value") blank_nil ended.solid (Nat.zero_lt_of_lt deep)
  cases known with
  | null =>
    exact scalar (takes_alternative counts 1 'n' rfl rfl (by simp [alternatives])
      (takes_keyword _ _))
  | falsehood =>
    exact scalar (takes_alternative counts 0 'f' rfl rfl (by simp [alternatives])
      (takes_keyword _ _))
  | truth =>
    exact scalar (takes_alternative counts 2 't' rfl rfl (by simp [alternatives])
      (takes_keyword _ _))
  | @number value text known =>
    have taken : (number.parser call limit).Takes text (blank ++ left)
        (.success (.number value)) :=
      counts.takes known (ended.numberEnd spaced) (by omega)
    obtain ⟨first, rest, begins, opens⟩ := (counts.shape known).head
    refine scalar (takes_alternative counts 5 first rfl begins ?_ taken)
    rcases opens with rfl | digit
    · simp [alternatives]
    · have apart : ∀ char ∈ ['f', 'n', 't', '\x7b', '['], first ≠ char := by
        rintro char member rfl
        have nondigit : ∀ char ∈ ['f', 'n', 't', '\x7b', '['], ¬char.isDigit := by simp
        exact nondigit first member digit
      simpa [alternatives] using apart
  | @string string text quotes =>
    have taken : ((stringText : Grammar τ String).parser call limit).Takes text (blank ++ left)
        (.success string) :=
      takes_string (strings _ _ quotes) (by omega)
    obtain ⟨rest, begins⟩ : ∃ rest, text = '"' :: rest := by
      obtain ⟨_⟩ := strings _ _ quotes
      exact ⟨_, rfl⟩
    exact scalar (takes_alternative counts 6 '"' rfl begins (by simp [alternatives])
      (taken.map _))
  | array items =>
    have taken := takes_array begins covers deep items spaced ended.solid short
    obtain ⟨rest, rfl⟩ := items.begins_with
    exact structured (takes_alternative counts 4 '[' rfl rfl (by simp [alternatives]) taken)
  | object items collected =>
    have taken := takes_object begins covers deep strings items collected spaced ended.solid short
    obtain ⟨rest, rfl⟩ := items.begins_with
    exact structured (takes_alternative counts 3 '\x7b' rfl rfl (by simp [alternatives]) taken)

end Nested

section Rule

variable {number : Grammar (fun _ : Unit => Json) Json}
  (strings : ∀ string text, quoted string text → StringText string text)
  (counts : Counts number counted)
  (form : ∀ value text, R value text → ValueForm quoted counted R value text)
include strings counts form

theorem begins_of_form : ∀ value text, R value text → Begins text :=
  fun value text known => (form value text known).begins strings counts.shape

theorem covers_nothing (p : Parser Json) : Covers R p 0 where
  takes := by
    intro value text left known short
    have empty := List.length_eq_zero_iff.mp (Nat.le_zero.mp short)
    exact absurd empty (known.begins (begins_of_form strings counts form)).ne_nil
  refuses positive := absurd positive (Nat.lt_irrefl 0)

theorem covers_value {call : Unit → Parser Json} {nested : Grammar (fun _ : Unit => Json) Json}
    (covers : Covers R (nested.parser call limit) bound) (deep : bound < limit) :
    Covers R ((valueWith number nested).parser call limit) (bound + 1) where
  takes := by
    rintro value _ left ⟨read, spaced⟩ short ended
    exact takes_value (begins_of_form strings counts form) covers deep strings counts
      (form _ _ read) spaced ended short
  refuses := by
    intro _ rest
    have refused : ((Grammar.choiceOf ((alternatives number nested).map Prod.snd)).parser call limit
        ).Refuses (']' :: rest) := by
      rw [Grammar.parser_choiceOf, List.map_map]
      apply Parser.Refuses.choice
      intro parser member
      obtain ⟨alternative, listed, rfl⟩ := List.mem_map.mp member
      have apart : ∀ alternative ∈ alternatives number nested, ¬alternative.1 ']' := by
        simp [alternatives]
      exact refuses_alternative counts listed (Text.forall_head (apart alternative listed) rest)
    exact (refused.label "value").seqLeft

/-- A rule of values covers the texts that are not longer than it may be entered deep. -/
theorem covers_rule {rules : Rules fun _ : Unit => Json}
    (each : rules () = valueWith number (.rule ())) {depth : Nat} (enough : bound ≤ depth)
    (deep : bound < limit) : Covers R (rules.parser limit depth ()) bound := by
  induction depth generalizing bound with
  | zero =>
    obtain rfl := Nat.le_zero.mp enough
    exact covers_nothing strings counts form _
  | succ depth ih =>
    cases bound with
    | zero => exact covers_nothing strings counts form _
    | succ bound =>
      have nested : Covers R ((Grammar.rule () : Grammar (fun _ : Unit => Json) Json).parser
          (rules.parser limit depth) limit) bound :=
        ih (Nat.le_of_succ_le_succ enough) (Nat.lt_of_succ_lt deep)
      rw [Rules.parser, each]
      exact covers_value strings counts form nested (Nat.lt_of_succ_lt deep)

end Rule

end CommittedChoice.Json
