import CommittedChoice.Proofs.Csv.Completeness
import CommittedChoice.Proofs.Reading.Halts
import CommittedChoice.Proofs.Reading.Unless

/-! Whatever is parsed as a table is one way to write it. A broken quoted cell makes a row succeed
with fewer cells or with none, and the table goes on with it; but then the next character is still
the quote, where neither a line break nor the end of the source can be read. -/
namespace CommittedChoice.Csv

variable {ι : Type} {τ : ι → Type} {call : (name : ι) → Parser (τ name)} {limit : Nat}
  {separator : Char} {text left : List Char} {state after : State} {front : List Char}
  {rows : List (List String)}

/-- A text at whose quote no cell could be read. -/
def Quoted (text : List Char) : Prop := text.head? = some '"'

theorem yields_lineBreak : ((lineBreak : Grammar τ String).parser call limit).Yields
    fun _ piece => LineBreak piece := by
  have word : ∀ text : String, LineBreak text.toList →
      (Parser.literal text).Yields fun _ piece => LineBreak piece :=
    fun _ known => Parser.yields_literal known
  have pairs := (Parser.Local.literal "\n\r").attempt.orElse (Parser.Local.literal "\r\n").attempt
  exact (((word "\n\r" (by decide)).attempt.orElse (word "\r\n" (by decide)).attempt
    (Parser.Local.literal _).attempt).orElse (word "\n" (by decide)) pairs).orElse
    (word "\r" (by decide)) (pairs.orElse (.literal _))

/-- The loop of a bare cell never fails. -/
theorem quoted_of_failure {expected : Expected} (splits : state.Splits front text)
    (run : (cell separator : Grammar τ String).parser call limit state =
      some (.failure expected, after)) : Quoted text := by
  refine Classical.byContradiction fun unquoted => ?_
  have refused : ((quotedCell : Grammar τ _).parser call limit).Refuses text :=
    refuses_quotedCell unquoted
  obtain ⟨_, middle, ran, clean, _, _⟩ := refused.run splits
  obtain ⟨⟨expected | content, after⟩, chosen, rest⟩ := Option.bind_eq_some_iff.mp run
  · simp only [Grammar.parser, Parser.orElse, ran, Option.bind_eq_bind, Option.bind_some, clean,
      if_true] at chosen
    obtain ⟨⟨expected | content, after⟩, looped, final⟩ := Option.bind_eq_some_iff.mp chosen
    · exact Parser.gather_ne_failure looped
    · cases final
  · cases rest

section Reading

variable (calls : ∀ name, (call name).Local)
include calls

theorem yields_quotedChar : ((quotedChar : Grammar τ Char).parser call limit).Yields
    fun char piece => piece = if char = '"' then ['"', '"'] else [char] := by
  have plain : ((Grammar.noneOf "\"" : Grammar τ Char).parser call limit).Yields
      fun char piece => piece = if char = '"' then ['"', '"'] else [char] :=
    Parser.yields_satisfy fun char accepted => by
      rw [if_neg (by simpa using accepted)]
  have twice : ((Grammar.map (fun _ => '"') (.attempt (.literal "\"\"")) : Grammar τ Char).parser
      call limit).Yields fun char piece => piece = if char = '"' then ['"', '"'] else [char] :=
    (Parser.Yields.attempt (Parser.yields_literal rfl)).map
  exact plain.orElse twice (Grammar.parser_local calls limit _)

theorem yields_quotedCell : ((quotedCell : Grammar τ _).parser call limit).Yields
    fun content piece => piece = '"' :: doubled content ++ ['"'] := by
  have looped := (yields_quotedChar calls).many (Grammar.parser_local calls limit _) limit
  refine .between Grammar.yields_char ?_
  rintro _ _ ⟨rfl, rfl⟩
  refine looped.seqLeft fun content piece pieces => Grammar.yields_char.mono ?_
  rintro _ _ ⟨rfl, rfl⟩
  rw [eq_doubled pieces]
  rfl

theorem yields_bareCell : ((bareCell separator : Grammar τ _).parser call limit).Yields
    fun chars piece => chars = piece ∧ ∀ char ∈ piece, char ∉ [separator, '\n', '\r'] := by
  have plain : ((Grammar.noneOf (separator.toString ++ "\n\r") : Grammar τ Char).parser call
      limit).Yields fun char piece => char ∉ [separator, '\n', '\r'] ∧ piece = [char] :=
    Parser.yields_satisfy fun char accepted =>
      ⟨(mem_bare char).mp (of_decide_eq_true accepted), rfl⟩
  exact (plain.many (Grammar.parser_local calls limit _) limit).mono fun _ _ pieces =>
    pieces.toChars

/-- Behind its opening quote a quoted cell does not fail cleanly. -/
theorem not_quoted_of_clean {expected : Expected} (splits : state.Splits front text)
    (run : (quotedCell : Grammar τ _).parser call limit state = some (.failure expected, after))
    (clean : after.cursor = state.cursor) : ¬Quoted text := by
  intro quoted
  obtain ⟨rest, rfl⟩ := List.head?_eq_some_iff.mp quoted
  have opened : ((Grammar.char '"' : Grammar τ Char).parser call limit).Takes ['"'] rest
      (.success '"') := Grammar.takes_char
  have inner : (Parser.seqLeft ((Grammar.many quotedChar : Grammar τ _).parser call limit)
      ((Grammar.char '"' : Grammar τ Char).parser call limit)).Local :=
    (Grammar.parser_local calls limit _).seqLeft (Grammar.parser_local calls limit _)
  exact Parser.bind_moves (k := fun _ => Parser.seqLeft
    ((Grammar.many quotedChar : Grammar τ _).parser call limit)
    ((Grammar.char '"' : Grammar τ Char).parser call limit)) opened (by simp) inner splits run clean

theorem yields_cell : ((cell separator : Grammar τ String).parser call limit).Yields
    (CellText separator) := by
  refine .map (.orElse_clean ((yields_quotedCell calls).mono ?_) (yields_bareCell calls)
    (Grammar.parser_local calls limit _) ?_)
  · rintro content _ rfl
    have written : CellText separator (String.ofList content) _ := .quoted _
    rwa [String.toList_ofList] at written
  · rintro _ _ _ _ _ splits run clean chars _ left rfl ⟨rfl, plain⟩
    have outside : ¬Quoted (chars ++ left) := not_quoted_of_clean calls splits run clean
    have bare : (String.ofList chars).toList = chars := String.toList_ofList
    have unquoted : chars.head? ≠ some '"' := by
      intro head
      obtain ⟨rest, rfl⟩ := List.head?_eq_some_iff.mp head
      exact outside rfl
    rw [← bare] at plain unquoted
    have written := CellText.bare plain unquoted
    rwa [bare] at written

/-- A row without cells has met a broken one. -/
theorem yields_row : Parser.YieldsUnless Quoted ((row separator : Grammar τ _).parser call limit)
    (RowText separator) := by
  intro state front text values after splits run
  have separated : ((Grammar.char separator : Grammar τ Char).parser call limit).Yields
      fun _ piece => piece = [separator] :=
    Grammar.yields_char.mono fun _ _ known => known.2
  have cells : ((cell separator : Grammar τ String).parser call limit).Yields
      (CellText separator) := yields_cell calls
  have listed := cells.sepBy separated (Grammar.parser_local calls limit _)
    (Grammar.parser_local calls limit _) limit
  obtain ⟨taken, left, split, splits', known⟩ := listed splits run
  refine ⟨taken, left, split, splits', ?_⟩
  by_cases empty : values = []
  · subst empty
    obtain ⟨_, _, failed⟩ := Parser.sepBy_nil run
    cases known
    right
    rw [List.nil_append] at split
    exact split ▸ quoted_of_failure splits failed
  · exact .inl ⟨empty, known⟩

theorem yields_rows : Parser.YieldsUnless Quoted
    ((Grammar.sepBy (row separator) lineBreak : Grammar τ _).parser call limit)
    (RowsText separator) := by
  refine (yields_row calls).sepBy yields_lineBreak (Grammar.parser_local calls limit _)
    (Grammar.parser_local calls limit _) (fun text quoted => refuses_lineBreak ?_) limit
  intro char head
  obtain rfl := Option.some.inj (quoted.symm.trans head)
  decide

end Reading

/-- A table that was read has a row, since rows never fail. -/
theorem rowsText_of_parse {fuel : Nat} {source : String}
    (ended : (table separator).parse .empty fuel source = some (.ok rows)) :
    rows ≠ [] ∧ RowsText separator rows source.toList := by
  obtain ⟨⟨outcome, after⟩, run, same⟩ := Option.map_eq_some_iff.mp ended
  obtain ⟨_⟩ | ⟨value⟩ := outcome
  · cases same
  cases same
  obtain ⟨middle, _, ran, closed⟩ := Parser.seqLeft_success run
  have calls := Rules.parser_local Rules.empty fuel fuel
  obtain ⟨taken, left, split, splits, known⟩ :=
    yields_rows calls (State.splits_start source) ran
  obtain rfl := Grammar.eof_success splits closed
  refine ⟨?_, ?_⟩
  · rintro rfl
    obtain ⟨_, _, failed⟩ := Parser.sepBy_nil ran
    exact Parser.sepBy_ne_failure failed
  · obtain written | stuck := known
    · rwa [split, List.append_nil]
    · cases stuck

end CommittedChoice.Csv
