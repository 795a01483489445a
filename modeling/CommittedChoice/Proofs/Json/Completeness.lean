import CommittedChoice.Json.Conversion
import CommittedChoice.Proofs.Json.Forms
import CommittedChoice.Proofs.Json.Serialization

/-! Every text of the JSON grammar is parsed to the value it denotes: it is a value text level by
level, with numbers that are in range. -/
namespace CommittedChoice.Json

variable {ι : Type} {τ : ι → Type} {convert : String → Option Number} {limit bound : Nat}
  {quoted : String → List Char → Prop}
  {value : Json} {text : List Char}

/-- The texts of the numbers in range. -/
def InRange (convert : String → Option Number) (value : Number) (text : List Char) : Prop :=
  NumberText text ∧ convert (String.ofList text) = some value

theorem counts_numberText : Counts (numberText convert : Grammar τ Json)
    (InRange convert) where
  shape _ _ known := known.1
  takes _ _ _ _ _ known stop rounds := takes_number known.1 known.2 stop rounds
  refuses _ _ _ other := refuses_number other

theorem ValueText.form : ∀ value text, ValueText convert quoted value text →
    ValueForm quoted (InRange convert) (ValueText convert quoted) value text := by
  intro value text known
  cases known with
  | null => exact .null
  | falsehood => exact .falsehood
  | truth => exact .truth
  | number shape converted => exact .number ⟨shape, converted⟩
  | string known => exact .string known
  | array items => exact .array items
  | object items collected => exact .object items collected

theorem ValueText.begins (strings : ∀ string text, quoted string text → StringText string text) :
    ∀ value text, ValueText convert quoted value text → Begins text :=
  fun value text known => (ValueText.form value text known).begins strings fun _ _ known => known.1

/-- Any value as a whole text. -/
def wholeValue (convert : String → Option Number) (nested : Grammar τ Json) : Grammar τ Json :=
  .seqLeft (.seqRight .spaces (valueText convert nested)) .eof

def parseValue? (convert : String → Option Number) (input : String) :
    Option (Except Failure Json) :=
  (wholeValue convert (.rule ())).parse (rules convert) (Grammar.ampleFuel 1 input) input

theorem parse_spaced {g : Grammar τ Json} {rules : Rules τ} {before : List Char} {fuel : Nat}
    {source : String} (split : source.toList = before ++ text) (spaced : Blank before)
    (begins : Begins text) (rounds : before.length < fuel)
    (taken : (g.run rules fuel).Takes text [] (.success value)) :
    (Grammar.seqLeft (.seqRight .spaces g) .eof).parse rules fuel source = some (.ok value) := by
  have whole : ((Grammar.seqLeft (.seqRight .spaces g) .eof).run rules fuel).Takes
      (before ++ text ++ []) [] (.success value) :=
    ((Grammar.takes_spaces spaced (begins.solid _) rounds).seqRight taken).seqLeft
      Grammar.takes_eof
  have start : (State.start source).Splits [] (before ++ text ++ [] ++ []) := by
    simpa [split] using State.splits_start source
  obtain ⟨after, run, _⟩ := whole start
  rw [Grammar.parse, run]
  rfl

theorem lt_ampleFuel (rules : Nat) (source : String) :
    source.length < Grammar.ampleFuel rules source := by
  have grown : source.length + 2 ≤ (rules + 2) * (source.length + 2) :=
    Nat.le_mul_of_pos_left _ (by omega)
  exact Nat.lt_of_lt_of_le (by omega) grown

section Whole

variable (strings : ∀ string text, quoted string text → StringText string text)
  {source : String} (known : SpacedText convert quoted value source.toList)
include strings known

/-- Both bounds of the fuel are beyond the length of the source. -/
theorem parse_spacedText {fuel : Nat} {g : Grammar (fun _ : Unit => Json) Json}
    (ample : source.length < fuel)
    (takes : ∀ {call limit bound blank text},
      Covers (ValueText convert quoted)
        ((Grammar.rule () : Grammar (fun _ : Unit => Json) Json).parser call limit) bound →
      bound < limit → ValueText convert quoted value text → Blank blank →
      (text ++ blank).length ≤ bound + 1 →
      (g.parser call limit).Takes (text ++ blank) [] (.success value)) :
    (Grammar.seqLeft (.seqRight .spaces g) .eof).parse (rules convert) fuel source =
      some (.ok value) := by
  generalize split : source.toList = chars at known
  obtain ⟨spaced, ⟨read, after⟩⟩ := known
  rename_i before text blank
  have length := congrArg List.length split
  simp only [List.length_append, String.length_toList] at length
  have covers : Covers (ValueText convert quoted) ((rules convert).parser fuel fuel ())
      source.length :=
    covers_rule strings counts_numberText ValueText.form rfl (Nat.le_of_lt ample) ample
  apply parse_spaced split spaced ((ValueText.begins strings _ _ read).append _) (by omega)
  exact takes covers ample read after (by rw [List.length_append]; omega)

theorem parse_of_spacedText (structured : IsStructured value) :
    parse? convert source = some (.ok value) :=
  parse_spacedText strings known (lt_ampleFuel 1 source) fun covers deep read after short =>
    takes_structured (ValueText.begins strings) covers deep strings (ValueText.form _ _ read)
      structured after ended_nil.solid short

theorem parseValue_of_spacedText : parseValue? convert source = some (.ok value) :=
  parse_spacedText strings known (lt_ampleFuel 1 source) fun covers deep read after short =>
    takes_value (ValueText.begins strings) covers deep strings counts_numberText
      (ValueText.form _ _ read) after ended_nil short

end Whole

/-- Every spelling of a structured value is parsed to it as a document, every spelling of any value
as a value, and serialized values are spelled whatever escapes are used. All this is so for every
conversion of numbers. -/
theorem spellings_parse (convert : String → Option Number) :
    (∀ value source, IsStructured value → SpacedText convert StringSpelling value source.toList →
      parse? convert source = some (.ok value)) ∧
    (∀ value source, SpacedText convert StringSpelling value source.toList →
      parseValue? convert source = some (.ok value)) ∧
    ∀ tokens : Tokens, (∀ char, CharSpelling char (tokens.character char)) →
      ∀ value, Writable convert tokens value → ∀ layout ∈ [Layout.compact, .indented],
        parseValue? convert (serialize layout tokens value) = some (.ok value) ∧
          (IsStructured value →
            parse? convert (serialize layout tokens value) = some (.ok value)) := by
  have strings : ∀ string text, StringSpelling string text → StringText string text :=
    fun _ _ spelled => spelled.stringText
  refine ⟨fun value source structured known => ?_, fun value source known => ?_, ?_⟩
  · exact parse_of_spacedText strings known structured
  · exact parseValue_of_spacedText strings known
  · intro tokens characters value writable layout either
    have spaced : layout.Spaced := by
      simp only [List.mem_cons, List.not_mem_nil, or_false] at either
      rcases either with rfl | rfl
      · exact Layout.spaced_compact
      · exact Layout.spaced_indented
    have known := spacedText_serialize characters spaced writable
    exact ⟨parseValue_of_spacedText strings known, parse_of_spacedText strings known⟩

/-- The second value of the key counts, and it is written with an escape and a pair of escapes. -/
theorem spellings_parsed :
    let convert := Number.ofText?
    let spelled := "[ \x7b\"k\":null,\"k\" :\"A\\u0042\\uD83d\\ude00\"\x7d]"
    let value := Json.array [.object [("k", .string "AB😀")]]
    let tokens : Tokens := ⟨escapeChar, fun
      | .integer whole => whole.repr.toList
      | .double _ => "1.5".toList⟩
    let measured := Json.object
      [("\n", .array [.number (.integer (-12)), .number (.double 0x3ff8000000000000)])]
    SpacedText convert StringSpelling value spelled.toList ∧
      parse? convert spelled = some (.ok value) ∧ parseValue? convert spelled = some (.ok value) ∧
      Writable convert tokens measured ∧
      serialize .indented tokens measured = "\x7b\n  \"\\n\": [\n    -12,\n    1.5\n  ]\n\x7d" ∧
      parse? convert (serialize .indented tokens measured) = some (.ok measured) ∧
      serialize .compact tokens measured = "\x7b\"\\n\":[-12,1.5]\x7d" ∧
      parseValue? convert (serialize .compact tokens measured) = some (.ok measured) := by
  intro convert spelled value tokens measured
  have hex : HexNumber 0x42 ['0', '0', '4', '2'] :=
    .mk (w := 0) (x := 0) (y := 4) (z := 2) (by decide) (by decide) (by decide) (by decide)
  have high : HexNumber (0xd800 + ('😀'.toNat - 0x10000) / 0x400) ['D', '8', '3', 'd'] :=
    .mk (w := 0xd) (x := 8) (y := 3) (z := 0xd) (by decide) (by decide) (by decide) (by decide)
  have low : HexNumber (0xdc00 + ('😀'.toNat - 0x10000) % 0x400) ['d', 'e', '0', '0'] :=
    .mk (w := 0xd) (x := 0xe) (y := 0) (z := 0) (by decide) (by decide) (by decide) (by decide)
  have a : CharSpelling 'A' ['A'] := .unescaped (by decide) (by decide) (by decide)
  have b : CharSpelling 'B' "\\u0042".toList := .unit hex
  have face : CharSpelling '😀' ("\\uD83d".toList ++ "\\ude00".toList) :=
    .pair (by decide) high low
  have k : CharSpelling 'k' ['k'] := .unescaped (by decide) (by decide) (by decide)
  have content : Pieces CharSpelling "AB😀".toList "A\\u0042\\uD83d\\ude00".toList :=
    .cons a (.cons b (.cons face .nil))
  have name : Pieces CharSpelling "k".toList "k".toList := .cons k .nil
  have key : Lexeme StringSpelling "k" "\"k\"".toList := .bare (.mk name)
  have blank : Blank [' '] := fun char member => List.mem_singleton.mp member ▸ rfl
  have spaced : Lexeme StringSpelling "k" ("\"k\"".toList ++ [' ']) := .mk (.mk name) blank
  have string : StringSpelling "AB😀" ('"' :: "A\\u0042\\uD83d\\ude00".toList ++ ['"']) :=
    .mk content
  have first : MemberText StringSpelling (Lexeme (ValueText convert StringSpelling)) ("k", .null)
      ("\"k\"".toList ++ [':'] ++ "null".toList) :=
    .mk key (.mk blank_nil) (.bare .null)
  have second : MemberText StringSpelling (Lexeme (ValueText convert StringSpelling))
      ("k", .string "AB😀")
      ("\"k\"".toList ++ [' '] ++ [':'] ++ ('"' :: "A\\u0042\\uD83d\\ude00".toList ++ ['"'])) :=
    .mk spaced (.mk blank_nil) (.bare (.string string))
  have comma : Structural ',' [','] := .mk blank_nil
  have members := Listed.cons first (.cons (After.mk comma second) .nil)
  have collected : Collects [("k", Json.null), ("k", .string "AB😀")] [("k", .string "AB😀")] :=
    (ofMembers_eq_iff _).mp rfl
  have opened : Structural '\x7b' ['\x7b'] := .mk blank_nil
  have object := ValueText.object (.mk opened members) collected
  have bracket : Structural '[' ['[', ' '] := .mk blank
  have written : SpacedText convert StringSpelling value spelled.toList := by
    have read := ValueText.array (.mk bracket (.cons (.bare object) .nil))
    simpa [spelled, value] using SpacedText.mk blank_nil (.bare read)
  have writable : Writable convert tokens measured := by
    have shape : NumberText (['-'] ++ ['1', '2'] ++ [] ++ []) :=
      .mk (.inr rfl) (.positive (by decide) (by decide) (by simp)) .none .none
    have half : NumberText ([] ++ ['1'] ++ ['.', '5'] ++ []) :=
      .mk (.inl rfl) (.positive (by decide) (by decide) (by simp)) (.some ⟨by simp, by simp⟩) .none
    have twelve : Writable convert tokens (.number (.integer (-12))) := .number shape (by decide)
    have double : Writable convert tokens (.number (.double 0x3ff8000000000000)) :=
      .number half (by decide)
    apply Writable.object (List.pairwise_singleton _ _)
    simp only [List.forall_mem_singleton]
    apply Writable.array
    simp only [List.forall_mem_cons]
    exact ⟨twelve, double, by simp⟩
  obtain ⟨documents, values, serialized⟩ := spellings_parse convert
  have written_out := serialized tokens charSpelling_escapeChar measured writable
  have compact := written_out .compact (by simp)
  have indented := written_out .indented (by simp)
  exact ⟨written, documents _ _ trivial written, values _ _ written, writable, by decide,
    indented.2 trivial, by decide, compact.1⟩

end CommittedChoice.Json
