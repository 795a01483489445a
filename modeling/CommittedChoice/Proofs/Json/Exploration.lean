import CommittedChoice.Proofs.Diagnosis.Explored
import CommittedChoice.Proofs.Json.Loose
import CommittedChoice.Proofs.Json.Soundness

/-! The parser of documents never consumes beyond a text that begins one: whatever stands inside an
abandoned branch, the characters consumed so far can be completed. -/
namespace CommittedChoice.Json

variable {ι : Type} {τ : ι → Type} {call : (name : ι) → Parser (τ name)} {calls : ι → Log}
  {limit : Nat} {convert : String → Option Number} {nested : Grammar τ Json} {char : Char}

theorem explores_spaces :
    ((Grammar.spaces : Grammar τ Unit).events call calls limit).Explores Blank :=
  .run "space" limit fun _ _ spaced => spaced

theorem explores_structural :
    ((structural char : Grammar τ Char).events call calls limit).Explores (Structural char) := by
  refine .bind (Grammar.explores_char (.mk blank_nil)) Grammar.yields_char ?_
  rintro _ _ ⟨rfl, rfl⟩
  exact explores_spaces.mono fun _ spaced => .mk spaced

theorem Begun.lexeme {α : Type} {R : α → List Char → Prop} {text : List Char}
    (begun : Begun R text) : Begun (Lexeme R) text := by
  obtain ⟨value, rest, known⟩ := begun
  exact ⟨value, rest, .bare known⟩

theorem explores_lexeme {α : Type} {g : Grammar τ α} {R : α → List Char → Prop}
    (read : (g.parser call limit).Yields R)
    (explored : (g.events call calls limit).Explores (Begun R)) :
    ((lexeme g).events call calls limit).Explores (Begun (Lexeme R)) :=
  (explored.mono fun _ => Begun.lexeme).bind read fun _ _ known =>
    explores_spaces.mono fun _ spaced => begun_whole (.mk known spaced)

/-- Up to four hexadecimal digits are filled up with zeros. -/
theorem viable_hex {digits : List Char} (few : digits.length ≤ 4)
    (hex : ∀ char ∈ digits, Text.isHexDigit char) :
    ∃ number rest, HexNumber number (digits ++ rest) := by
  let zeros := List.replicate (4 - digits.length) '0'
  have all : ∀ char ∈ digits ++ zeros, Text.isHexDigit char := by
    intro char member
    rcases List.mem_append.mp member with first | zero
    · exact hex char first
    · obtain rfl := List.eq_of_mem_replicate zero
      decide
  have four : (digits ++ zeros).length = 4 := by
    rw [List.length_append, List.length_replicate]
    omega
  obtain ⟨number, known⟩ := hexNumber_of_digits _ four all
  exact ⟨number, zeros, known⟩

theorem explores_unitEscape : ((unitEscape : Grammar τ Fragment).events call calls limit).Explores
    fun word => Begun FragmentText ('\\' :: word) := by
  have filled : ∀ digits : List Char, digits.length ≤ 4 →
      (∀ char ∈ digits, Text.isHexDigit char) → Begun FragmentText ('\\' :: 'u' :: digits) := by
    intro digits few hex
    obtain ⟨number, rest, known⟩ := viable_hex few hex
    exact ⟨_, rest, .unit known⟩
  refine .bind (Grammar.explores_char (filled [] (by simp) (by simp))) Grammar.yields_char ?_
  rintro _ _ ⟨rfl, rfl⟩
  refine .rounds (Parser.yields_class "hexadecimal digit") ?_
  intro chars before fewer pieces
  obtain ⟨rfl, hex⟩ := pieces.toChars
  refine .satisfy fun char digit => filled (chars ++ [char]) ?_ ?_
  · rw [List.length_append, List.length_singleton]
    exact fewer
  · simpa [or_imp, forall_and] using ⟨hex, digit⟩

section Reading

variable (rules : ∀ name, (call name).Local)
include rules

theorem explores_fragment :
    ((Grammar.orElse unescaped escape : Grammar τ Fragment).events call calls limit).Explores
      (Begun FragmentText) := by
  have plain : ((unescaped : Grammar τ Fragment).events call calls limit).Explores
      (Begun FragmentText) := by
    refine .satisfy fun char accepted => ?_
    obtain ⟨printable, unquoted, plain⟩ := isUnescaped_iff.mp accepted
    exact begun_whole (.unescaped printable unquoted plain)
  have short : ((shortEscape : Grammar τ Fragment).events call calls limit).Explores
      fun word => Begun FragmentText ('\\' :: word) :=
    Grammar.explores_oneOf fun letter member =>
      begun_whole (.short (mem_shortEscapes letter member))
  have escaped : ((escape : Grammar τ Fragment).events call calls limit).Explores
      (Begun FragmentText) := by
    have opened : Begun FragmentText ['\\'] :=
      ⟨_, ['n'], .short (mem_shortEscapes 'n' (by simp))⟩
    refine .bind (Grammar.explores_char opened) Grammar.yields_char ?_
    rintro _ _ ⟨rfl, rfl⟩
    exact short.orElse explores_unitEscape (Grammar.parser_local rules limit shortEscape)
  exact plain.orElse escaped (Grammar.parser_local rules limit unescaped)

theorem explores_string :
    ((stringText : Grammar τ String).events call calls limit).Explores (Begun StringText) := by
  refine .bind (Grammar.explores_char ⟨_, ['"'], .mk .nil⟩) Grammar.yields_char ?_
  rintro _ _ ⟨rfl, rfl⟩
  refine .bind (R := fun _ text => ∃ fragments, Pieces FragmentText fragments text) ?_ ?_ ?_
  · refine .rounds (yields_fragment rules) fun fragments before _ pieces => ?_
    apply (explores_fragment rules).mono
    rintro word ⟨fragment, rest, known⟩
    have closed := StringText.mk (pieces.append (.single known))
    exact ⟨String.ofList (Fragment.reading (fragments ++ [fragment])), rest ++ ['"'],
      by simpa using closed⟩
  · exact ((yields_fragment rules).many (Grammar.parser_local rules limit _) limit).mono
      fun fragments _ pieces => ⟨fragments, pieces⟩
  · rintro _ content ⟨fragments, pieces⟩
    exact Grammar.explores_char (begun_whole (.mk pieces))

theorem explores_wholePart :
    ((wholePart : Grammar τ Unit).events call calls limit).Explores WholeText := by
  refine .orElse (Grammar.explores_char .zero) ?_
    (Grammar.parser_local rules limit (.map _ (.char '0')))
  have positive : ∀ first ∈ "123456789".toList, ∀ digits : List Char,
      (∀ char ∈ digits, char.isDigit) → WholeText (first :: digits) :=
    fun first member _ others =>
      .positive (nonzero_spec first member).2 (nonzero_spec first member).1 others
  refine .bind (Grammar.explores_oneOf fun first member => positive first member [] (by simp))
    Grammar.yields_oneOf ?_
  rintro first _ ⟨member, rfl⟩
  exact .run "digit" limit fun digits _ others => positive first member digits others

omit rules in
theorem explores_fraction :
    ((fraction : Grammar τ _).events call calls limit).Explores (Viable FractionText) := by
  have opened : Viable FractionText ['.'] := ⟨['0'], .some ⟨by simp, by simp⟩⟩
  refine .bind (Grammar.explores_char opened) Grammar.yields_char ?_
  rintro _ _ ⟨rfl, rfl⟩
  exact .run "digit" (limit + 1) fun _ some digits => viable_whole (.some ⟨some, digits⟩)

theorem explores_exponent :
    ((exponent : Grammar τ _).events call calls limit).Explores (Viable ExponentText) := by
  have zero : Digits ['0'] := ⟨by simp, by simp⟩
  refine .bind (.bind ?_ Grammar.yields_oneOf ?_) (yields_mark rules) ?_
  · exact Grammar.explores_oneOf fun letter member =>
      ⟨['0'], .some (by simpa using member) (.inl rfl) zero⟩
  · rintro letter _ ⟨member, rfl⟩
    exact Grammar.explores_oneOf fun sign signed =>
      ⟨['0'], .some (by simpa using member) (.inr (by simpa using signed)) zero⟩
  · rintro _ _ ⟨letter, sign, rfl, marked, signed⟩
    exact .run "digit" (limit + 1) fun _ some digits =>
      viable_whole (.some marked signed ⟨some, digits⟩)

theorem explores_numberLiteral :
    ((numberLiteral : Grammar τ String).events call calls limit).Explores (Viable NumberText) := by
  have opened : Viable NumberText ['-'] := ⟨['0'], .mk (.inr rfl) .zero .none .none⟩
  refine .bind (.bind (.bind (Grammar.explores_char opened) (yields_sign rules) ?_)
    (yields_integer rules) ?_) (yields_decimal rules) ?_
  · intro _ sign signed
    refine (explores_wholePart rules).mono fun whole digits => viable_whole ?_
    simpa using NumberText.mk signed digits .none .none
  · rintro _ _ ⟨sign, whole, rfl, signed, digits⟩
    refine explores_fraction.mono ?_
    rintro word ⟨rest, decimals⟩
    exact ⟨rest, by simpa using NumberText.mk signed digits decimals .none⟩
  · rintro _ _ ⟨sign, whole, decimal, rfl, signed, digits, decimals⟩
    refine (explores_exponent rules).mono ?_
    rintro word ⟨rest, power⟩
    exact ⟨rest, by simpa using NumberText.mk signed digits decimals power⟩

theorem explores_number :
    ((numberText convert : Grammar τ Json).events call calls limit).Explores
      (Viable NumberText) := by
  refine .bind (explores_numberLiteral rules) (yields_numberLiteral rules) fun text _ _ => ?_
  unfold numberOf
  split
  · exact .quiet
  · exact .fail _

/-- Any list can be closed, and after a separator one more item makes it a list again. -/
theorem explores_bracketed {α : Type} {item : Grammar τ α} {R : α → List Char → Prop}
    {first last : Char} (read : (item.parser call limit).Yields R)
    (explored : (item.events call calls limit).Explores (Begun R))
    (inhabited : ∃ value piece, R value piece) :
    ((Grammar.between (structural first) (structural last) (.sepBy item (structural ','))).events
      call calls limit).Explores (Begun (Lexeme (Bracketed first last R))) := by
  have closed : ∀ {opening : List Char} {values : List α} (word rest : List Char),
      Structural first opening → Listed R (Structural ',') values (word ++ rest) →
      Begun (Lexeme (Bracketed first last R)) (opening ++ word) := by
    intro opening values word rest opened listed
    have whole : Bracketed first last R values (opening ++ (word ++ rest) ++ [last]) :=
      .mk opened listed
    exact ⟨values, rest ++ [last], .bare (by simpa using whole)⟩
  have listed : ((Grammar.sepBy item (structural ',')).parser call limit).Yields
      (Listed R (Structural ',')) :=
    read.sepBy yields_structural (Grammar.parser_local rules limit _)
      (Grammar.parser_local rules limit _) limit
  refine .bind (explores_structural.mono fun opening opened => ?_) yields_structural
    fun _ opening opened => .bind (.sepBy read yields_structural limit ?_ ?_ ?_) listed ?_
  · simpa using closed [] [] opened .nil
  · apply explored.mono
    rintro word ⟨value, rest, known⟩
    exact closed _ rest opened (by simpa using Listed.cons known .nil)
  · intro values body known some
    refine explores_structural.mono fun word separator => ?_
    obtain ⟨value, piece, next⟩ := inhabited
    exact closed _ piece opened (by simpa using known.snoc some separator next)
  · intro values body separator known some between
    apply explored.mono
    rintro word ⟨value, rest, next⟩
    exact closed _ rest opened (by simpa using known.snoc some between next)
  · intro values body known
    refine explores_structural.mono ?_
    rintro _ ⟨spaced⟩
    have whole : Lexeme (Bracketed first last R) values (opening ++ body ++ [last] ++ _) :=
      .mk (.mk opened known) spaced
    exact begun_whole (by simpa using whole)

theorem explores_member {R : Json → List Char → Prop}
    (explored : (nested.events call calls limit).Explores (Begun R))
    (inhabited : ∃ value piece, R value piece) :
    ((member nested).events call calls limit).Explores (Begun (MemberText StringText R)) := by
  obtain ⟨value, piece, valued⟩ := inhabited
  refine .bind (.bind ?_ (yields_lexeme (yields_string rules)) ?_) (yields_key rules) ?_
  · refine (explores_lexeme (yields_string rules) (explores_string rules)).mono ?_
    rintro word ⟨key, rest, named⟩
    have whole : MemberText StringText R (key, value) (word ++ rest ++ [':'] ++ piece) :=
      .mk named (.mk blank_nil) valued
    exact ⟨(key, value), rest ++ [':'] ++ piece, by simpa using whole⟩
  · intro key name named
    refine explores_structural.mono fun colon separated => ⟨(key, value), piece, ?_⟩
    exact .mk named separated valued
  · rintro key _ ⟨name, colon, rfl, named, separated⟩
    apply explored.mono
    rintro word ⟨value, rest, known⟩
    refine ⟨(key, value), rest, ?_⟩
    rw [List.append_assoc]
    exact .mk named separated known

end Reading

theorem explores_keyword {word : String} {value : Json}
    (known : LooseText convert value word.toList) :
    ((keyword word value : Grammar τ Json).events call calls limit).Explores
      (Begun (LooseText convert)) :=
  .matchChars fun _ rest split _ => ⟨value, rest, split ▸ known⟩

theorem exists_lexeme : ∃ value piece, Lexeme (LooseText convert) value piece :=
  ⟨.null, _, .bare .null⟩

section Values

variable (rules : ∀ name, (call name).Local)
  (inner : (nested.parser call limit).Yields (Lexeme (ValueText convert StringText)))
  (explored : (nested.events call calls limit).Explores (Begun (Lexeme (LooseText convert))))
include rules inner explored

theorem explores_array : ((arrayText nested).events call calls limit).Explores
    (Begun fun value text => IsStructured value ∧ Lexeme (LooseText convert) value text) := by
  have read := inner.mono fun _ _ known => known.loose
  refine (explores_bracketed rules read explored exists_lexeme).mono ?_
  rintro word ⟨elements, rest, known⟩
  exact ⟨.array elements, rest, trivial, known.mono fun _ items _ => .array items⟩

theorem explores_object : ((objectText nested).events call calls limit).Explores
    (Begun fun value text => IsStructured value ∧ Lexeme (LooseText convert) value text) := by
  have read := yields_member rules (inner.mono fun _ _ known => known.loose)
  have written : ∃ member piece,
      MemberText StringText (Lexeme (LooseText convert)) member piece := by
    obtain ⟨value, piece, valued⟩ := exists_lexeme
    exact ⟨_, _, .mk (.bare (.mk .nil)) (.mk blank_nil) valued⟩
  refine (explores_bracketed rules read (explores_member rules explored exists_lexeme) written
    ).mono ?_
  rintro word ⟨members, rest, known⟩
  refine ⟨ofMembers members, rest, trivial, known.mono fun _ items _ => ?_⟩
  exact .object items ((ofMembers_eq_iff members).mp rfl)

theorem explores_value :
    ((valueText convert nested).events call calls limit).Explores
      (Begun (Lexeme (LooseText convert))) := by
  have structured : ∀ word, Begun (fun value text => IsStructured value ∧
      Lexeme (LooseText convert) value text) word → Begun (Lexeme (LooseText convert)) word :=
    fun _ ⟨value, rest, _, known⟩ => ⟨value, rest, known⟩
  have chosen : ((Grammar.choiceOf ((alternatives (numberText convert) nested).map
      Prod.snd)).events call calls limit).Explores (Begun (Lexeme (LooseText convert))) := by
    apply Grammar.explores_choiceOf rules
    simp only [alternatives, List.map_cons, List.map_nil, List.forall_mem_cons, List.not_mem_nil,
      false_implies, implies_true, and_true]
    refine ⟨?_, ?_, ?_, ?_, ?_, ?_, ?_⟩
    · exact (explores_keyword .falsehood).mono fun _ => Begun.lexeme
    · exact (explores_keyword .null).mono fun _ => Begun.lexeme
    · exact (explores_keyword .truth).mono fun _ => Begun.lexeme
    · exact (explores_object rules inner explored).mono structured
    · exact (explores_array rules inner explored).mono structured
    · apply (explores_number rules).mono
      rintro word ⟨rest, shape⟩
      obtain ⟨number, converted⟩ := exists_orZero convert (String.ofList (word ++ rest))
      exact ⟨.number number, rest, .bare (.number shape converted)⟩
    · apply (explores_string rules).mono
      rintro word ⟨string, rest, known⟩
      exact ⟨.string string, rest, .bare (.string known)⟩
  exact chosen.bind (yields_choice rules inner).label fun _ _ known =>
    explores_spaces.mono fun _ spaced => begun_whole (known.loose.append spaced)

/-- White space begins a document, and a structured value after it goes on with one. -/
theorem explores_bodyText :
    ((bodyText nested).events call calls limit).Explores (Viable DocumentText) := by
  have begun : ∀ {blank} word, Blank blank → Begun (fun value text => IsStructured value ∧
      Lexeme (LooseText convert) value text) word → Viable DocumentText (blank ++ word) := by
    rintro blank word spaced ⟨value, rest, structured, known⟩
    refine ⟨rest, orZero convert, value, structured, ?_⟩
    rw [List.append_assoc]
    exact .mk spaced known
  refine .bind ?_ Grammar.yields_spaces fun _ blank spaced => ?_
  · refine explores_spaces.mono fun blank spaced => ?_
    have bare : Lexeme (LooseText convert) (.array []) "[]".toList :=
      .bare (.array (.mk (.mk blank_nil) .nil))
    simpa using begun [] spaced ⟨.array [], _, trivial, bare⟩
  · refine .orElse ?_ ?_ (Grammar.parser_local rules limit _)
    · exact (explores_object rules inner explored).mono fun word known => begun word spaced known
    · exact (explores_array rules inner explored).mono fun word known => begun word spaced known

end Values

theorem explores_rule (limit depth : Nat) :
    ((Grammar.rule () : Grammar (fun _ : Unit => Json) Json).events
      ((rules convert).parser limit depth) ((rules convert).events limit depth) limit).Explores
      (Begun (Lexeme (LooseText convert))) := by
  induction depth with
  | zero => exact .quiet
  | succ depth ih =>
    exact explores_value ((rules convert).parser_local limit depth) (yields_rule limit depth) ih

end CommittedChoice.Json
