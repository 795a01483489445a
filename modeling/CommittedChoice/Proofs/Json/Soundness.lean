import CommittedChoice.Proofs.Json.Completeness

/-! Whatever is parsed as JSON is a text of the grammar, and the value is the one it denotes. What
each parser has read when it succeeds says all that is needed of it, by induction on how deeply
values are entered; that nothing is left is for the end of the source to say. -/
namespace CommittedChoice.Json

variable {ι : Type} {τ : ι → Type} {call : (name : ι) → Parser (τ name)} {limit : Nat}
  {convert : String → Option Number} {nested : Grammar τ Json} {value : Json} {text : List Char}

theorem yields_keyword {word : String} {value : Json}
    (known : ValueText convert StringText value word.toList) :
    ((keyword word value : Grammar τ Json).parser call limit).Yields
      (Lexeme (ValueText convert StringText)) := by
  have read : Lexeme (ValueText convert StringText) value word.toList := .bare known
  exact .map (Parser.yields_literal read).attempt

theorem yields_key (calls : ∀ name, (call name).Local) :
    ((Grammar.seqLeft (lexeme stringText) (structural ':') : Grammar τ String).parser call limit
      ).Yields fun key text => ∃ name colon, text = name ++ colon ∧ Lexeme StringText key name ∧
        Structural ':' colon :=
  (yields_lexeme (yields_string calls)).seqLeft fun _ name known =>
    yields_structural.mono fun _ colon separated => ⟨name, colon, rfl, known, separated⟩

theorem yields_member {R : Json → List Char → Prop} (calls : ∀ name, (call name).Local)
    (inner : (nested.parser call limit).Yields R) :
    ((member nested).parser call limit).Yields (MemberText StringText R) := by
  apply (yields_key calls).seqPair
  rintro key _ ⟨name, colon, rfl, known, separated⟩
  exact inner.mono fun _ _ valued => .mk known separated valued

section Reading

variable (calls : ∀ name, (call name).Local)
  (inner : (nested.parser call limit).Yields (Lexeme (ValueText convert StringText)))
include calls inner

theorem yields_array : ((arrayText nested).parser call limit).Yields
    fun value text => IsStructured value ∧ Lexeme (ValueText convert StringText) value text := by
  refine .map ((yields_bracketed calls inner).mono ?_)
  rintro elements _ ⟨items, spaced⟩
  exact ⟨trivial, .mk (.array items) spaced⟩

theorem yields_object : ((objectText nested).parser call limit).Yields
    fun value text => IsStructured value ∧ Lexeme (ValueText convert StringText) value text := by
  refine .map ((yields_bracketed calls (yields_member calls inner)).mono ?_)
  rintro written _ ⟨items, spaced⟩
  exact ⟨trivial, .mk (.object items ((ofMembers_eq_iff written).mp rfl)) spaced⟩

theorem yields_choice :
    ((Grammar.choiceOf ((alternatives (numberText convert) nested).map Prod.snd)).parser call
      limit).Yields (Lexeme (ValueText convert StringText)) := by
  apply Grammar.yields_choiceOf calls
  simp only [alternatives, List.map_cons, List.map_nil, List.forall_mem_cons, List.not_mem_nil,
    false_implies, implies_true, and_true]
  refine ⟨yields_keyword .falsehood, yields_keyword .null, yields_keyword .truth, ?_, ?_, ?_, ?_⟩
  · exact (yields_object calls inner).mono fun _ _ known => known.2
  · exact (yields_array calls inner).mono fun _ _ known => known.2
  · apply (yields_number calls).mono
    rintro _ text ⟨number, rfl, shape, converted⟩
    exact .bare (.number shape converted)
  · exact .map ((yields_string calls).mono fun _ _ known => .bare (.string known))

theorem yields_value :
    ((valueText convert nested).parser call limit).Yields (Lexeme (ValueText convert StringText)) :=
  (yields_choice calls inner).label.seqLeft fun _ _ known =>
    Grammar.yields_spaces.mono fun _ _ spaced => known.append spaced

theorem yields_structured :
    ((Grammar.orElse (objectText nested) (arrayText nested)).parser call limit).Yields
      fun value text => IsStructured value ∧ Lexeme (ValueText convert StringText) value text :=
  (yields_object calls inner).orElse (yields_array calls inner)
    (Grammar.parser_local calls limit _)

end Reading

/-- However deeply rules may be entered, a value that was read stands in the text. -/
theorem yields_rule (limit depth : Nat) :
    ((Grammar.rule () : Grammar (fun _ : Unit => Json) Json).parser
      ((rules convert).parser limit depth) limit).Yields
      (Lexeme (ValueText convert StringText)) := by
  induction depth with
  | zero => rintro _ _ _ _ _ _ ⟨⟩
  | succ depth ih => exact yields_value ((rules convert).parser_local limit depth) ih

/-- The run has read white space, the grammar in the middle and nothing else. -/
theorem parse_ok {g : Grammar τ Json} {rules : Rules τ} {fuel : Nat} {source : String}
    {R : Json → List Char → Prop} (known : (g.run rules fuel).Yields R)
    (ended : (Grammar.seqLeft (.seqRight .spaces g) .eof).parse rules fuel source =
      some (.ok value)) :
    ∃ before text, source.toList = before ++ text ∧ Blank before ∧ R value text := by
  obtain ⟨⟨outcome, after⟩, run, same⟩ := Option.map_eq_some_iff.mp ended
  obtain ⟨_⟩ | ⟨value⟩ := outcome
  · cases same
  cases same
  obtain ⟨middle, _, ran, closed⟩ := Parser.seqLeft_success run
  have front : ((Grammar.seqRight .spaces g).run rules fuel).Yields fun value text =>
      ∃ before rest, text = before ++ rest ∧ Blank before ∧ R value rest :=
    Grammar.yields_spaces.seqRight fun _ before spaced =>
      known.mono fun _ rest read => ⟨before, rest, rfl, spaced, read⟩
  obtain ⟨_, left, split, splits, before, rest, rfl, spaced, read⟩ :=
    front (State.splits_start source) ran
  obtain rfl := Grammar.eof_success splits closed
  exact ⟨before, rest, by simpa using split, spaced, read⟩

/-- A document that is parsed is one, at every fuel. -/
theorem spacedText_of_parse {fuel : Nat} {source : String}
    (ended : (document (.rule ())).parse (rules convert) fuel source = some (.ok value)) :
    IsStructured value ∧ SpacedText convert StringText value source.toList := by
  obtain ⟨before, text, split, spaced, structured, read⟩ :=
    parse_ok (yields_structured ((rules convert).parser_local fuel fuel) (yields_rule fuel fuel))
      ended
  rw [split]
  exact ⟨structured, .mk spaced read⟩

/-- Every text of the grammar is parsed to each value it denotes, so that it denotes one. -/
theorem spacedText_unique {other : Json} (first : SpacedText convert StringText value text)
    (second : SpacedText convert StringText other text) : other = value := by
  rw [← String.toList_ofList (l := text)] at first second
  have parsed := parseValue_of_spacedText (fun _ _ known => known) first
  have parsed' := parseValue_of_spacedText (fun _ _ known => known) second
  exact Except.ok.inj (Option.some.inj (parsed'.symm.trans parsed))

/-- The documents are the texts of structured values. -/
theorem parse?_eq_ok_iff {source : String} : parse? convert source = some (.ok value) ↔
    IsStructured value ∧ SpacedText convert StringText value source.toList :=
  ⟨spacedText_of_parse, fun known => parse_of_spacedText (fun _ _ known => known) known.2 known.1⟩

/-- A document that is parsed is a text of the grammar as a whole, and the value is the only one
it denotes. All this is so for every conversion of numbers. -/
theorem parse_denotes {source : String} (ended : parse? convert source = some (.ok value)) :
    IsStructured value ∧ SpacedText convert StringText value source.toList ∧
      ∀ other, SpacedText convert StringText other source.toList → other = value := by
  obtain ⟨structured, known⟩ := spacedText_of_parse ended
  exact ⟨structured, known, fun other known' => spacedText_unique known known'⟩

/-- The surrogate stands alone: an escape that is not one of a code unit comes after it. -/
theorem lone_surrogate_denotes :
    parse? Number.ofText? "[\"\\ud83d\\n\",15e-1]" =
        some (.ok (.array [.string "\ufffd\n", .number (.double 0x3ff8000000000000)])) ∧
      SpacedText Number.ofText? StringText
        (.array [.string "\ufffd\n", .number (.double 0x3ff8000000000000)])
        "[\"\\ud83d\\n\",15e-1]".toList := by
  have ended : parse? Number.ofText? "[\"\\ud83d\\n\",15e-1]" =
      some (.ok (.array [.string "\ufffd\n", .number (.double 0x3ff8000000000000)])) := by rfl
  exact ⟨ended, (parse_denotes ended).2.1⟩

end CommittedChoice.Json
