import CommittedChoice.Proofs.Json.Soundness
import CommittedChoice.Proofs.Reading.Entries

/-! The grammar of JSON texts is founded: a value inside another one stands behind a bracket, and
every loop reads a character of a class, a piece of a string or a comma. So the parser comes to an
end on every text. -/
namespace CommittedChoice.Json

variable {ι : Type} {τ : ι → Type} {rules : Rules τ} {names : ι → Prop} {moved : Prop}
  {convert : String → Option Number} {nested : Grammar τ Json}

theorem consumes_structural (char : Char) :
    (structural char : Grammar τ Char).Consumes rules :=
  ((Grammar.consumes_satisfy _).label _).seqLeft .spaces

theorem founded_spaces : (Grammar.spaces : Grammar τ Unit).Founded rules names moved :=
  ⟨trivial, (Grammar.consumes_satisfy _).label _⟩

theorem founded_lexeme {α : Type} {g : Grammar τ α} (founded : g.Founded rules names moved) :
    (lexeme g).Founded rules names moved :=
  ⟨founded, founded_spaces⟩

theorem founded_structural (char : Char) :
    (structural char : Grammar τ Char).Founded rules names moved :=
  founded_lexeme trivial

theorem founded_string : (stringText : Grammar τ String).Founded rules names moved := by
  have room : Reservable Char 4 := by decide
  have fragment : (Grammar.orElse unescaped escape : Grammar τ Fragment).Founded rules names
      (moved ∨ (Grammar.char '"' : Grammar τ Char).Consumes rules) :=
    ⟨trivial, trivial, trivial, trivial, room, trivial⟩
  have consumes : (Grammar.orElse unescaped escape : Grammar τ Fragment).Consumes rules :=
    Grammar.consumes_of_yields fun fuel =>
      (yields_fragment (rules.parser_local fuel fuel)).mono fun _ _ known => known.ne_nil
  exact ⟨trivial, trivial, fragment, consumes⟩

theorem founded_number : (numberText convert : Grammar τ Json).Founded rules names moved := by
  have digit : (Grammar.digit : Grammar τ Char).Consumes rules :=
    (Grammar.consumes_satisfy _).label _
  have whole (moved : Prop) : (wholePart : Grammar τ Unit).Founded rules names moved :=
    ⟨trivial, trivial, trivial, digit⟩
  have fractions (moved : Prop) : (fraction : Grammar τ _).Founded rules names moved :=
    ⟨trivial, trivial, digit⟩
  have exponents (moved : Prop) : (exponent : Grammar τ _).Founded rules names moved :=
    ⟨⟨trivial, trivial⟩, trivial, digit⟩
  refine ⟨⟨⟨⟨trivial, whole _⟩, fractions _⟩, exponents _⟩, fun text _ => ?_⟩
  unfold numberOf
  split <;> trivial

/-- The items between brackets stand behind the first of them. -/
theorem founded_bracketed {α : Type} {item : Grammar τ α} (first last : Char)
    (items : item.Founded rules names True) :
    (Grammar.between (structural first) (structural last)
      (.sepBy item (structural ','))).Founded rules names moved :=
  ⟨founded_structural first, founded_structural last,
    items.mono fun _ => .inr (consumes_structural first), founded_structural ',',
    (consumes_structural ',').seqRight item⟩

section Nested

variable (entered : nested.Founded rules names True)
include entered

theorem founded_array : (arrayText nested).Founded rules names moved :=
  founded_bracketed '[' ']' entered

theorem founded_object : (objectText nested).Founded rules names moved :=
  founded_bracketed '\x7b' '\x7d' ⟨⟨founded_lexeme founded_string, founded_structural ':'⟩,
    entered.mono fun _ => .inl trivial⟩

theorem founded_value : (valueText convert nested).Founded rules names moved := by
  have chosen : (Grammar.choiceOf ((alternatives (numberText convert) nested).map
      Prod.snd)).Founded rules names moved := by
    apply Grammar.founded_choiceOf
    simp only [alternatives, List.map_cons, List.map_nil, List.forall_mem_cons, List.not_mem_nil,
      false_implies, implies_true, and_true]
    exact ⟨trivial, trivial, trivial, founded_object entered, founded_array entered, founded_number,
      founded_string⟩
  exact founded_lexeme chosen

theorem founded_document : (document nested).Founded rules names moved :=
  ⟨⟨founded_spaces, founded_object entered, founded_array entered⟩, trivial, trivial⟩

end Nested

/-- At a bracket every alternative before the array fails where it stands, and behind the bracket
the array runs the grammar of its first element. -/
theorem visits_element {state inside : State} (bracket : state.peek = some '[')
    (opened : (structural '[' : Grammar τ Char).Replies rules state (.success '[', inside)) :
    (valueText convert nested).Visits rules state nested inside := by
  have word (text : String) (value : Json) (char : Char) (chars : List Char)
      (spelled : text.toList = char :: chars) (other : char ≠ '[') :
      (keyword text value : Grammar τ Json).Replies rules state
        (.failure (.literal text), state) := by
    refine ⟨0, ?_⟩
    simp [Grammar.run, Grammar.parser, keyword, Parser.map, Parser.attempt, Parser.literal, spelled,
      Parser.matchChars, bracket, other.symm, State.rewind]
  have object : (objectText nested).Replies rules state
      (.failure (.label ("\"" ++ '\x7b'.toString ++ "\"")), state) := by
    refine ⟨0, ?_⟩
    simp [Grammar.run, Grammar.parser, objectText, structural, lexeme, Grammar.char, Parser.map,
      Parser.between, Parser.seqLeft, Parser.label, Parser.satisfy, bracket]
  have falsity := word "false" (.bool false) 'f' _ rfl (by decide)
  have nothing := word "null" .null 'n' _ rfl (by decide)
  have truth := word "true" (.bool true) 't' _ rfl (by decide)
  refine .inside .seqLeft (.inside .label ?_)
  refine .inside (.choiceNext falsity rfl) (.inside (.choiceNext nothing rfl) ?_)
  refine .inside (.choiceNext truth rfl) (.inside (.choiceNext object rfl) (.inside .choice ?_))
  exact .inside .map (.inside (.content opened) (.inside .sepBy (.inside .attempt .here)))

theorem rules_founded : (Json.rules convert).Founded fun _ => True :=
  fun _ _ => founded_value ⟨trivial, trivial⟩

theorem parse?_isSome (convert : String → Option Number) (input : String) :
    ∃ result, parse? convert input = some result := by
  have founded : (document (.rule ())).Founded (Json.rules convert) (fun _ => True) False :=
    founded_document ⟨trivial, trivial⟩
  exact founded.parse_isSome rules_founded 1 input

end CommittedChoice.Json
