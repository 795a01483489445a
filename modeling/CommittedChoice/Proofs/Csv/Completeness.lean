import CommittedChoice.Csv
import CommittedChoice.Proofs.Csv.Writing
import CommittedChoice.Proofs.Reading.Characters

/-! However a table is written out, parsing gives it back. What follows a cell, a row or a line
break decides whether it ends there: a cell goes on to a separator or a line break, a row to a line
break, and a line break is the longest one that stands there. -/
namespace CommittedChoice.Csv

variable {ι : Type} {τ : ι → Type} {call : (name : ι) → Parser (τ name)} {limit : Nat}
  {separator : Char} {text piece left : List Char} {cells : List String}
  {rows : List (List String)}

/-- What comes after a cell. -/
def CellEnd (separator : Char) (left : List Char) : Prop :=
  ∀ char ∈ left.head?, char ∈ [separator, '\n', '\r']

/-- What comes after a row. -/
def RowEnd (left : List Char) : Prop := ∀ char ∈ left.head?, char ∈ ['\n', '\r']

/-- What a line break does not go on with. -/
def Apart (lineBreak left : List Char) : Prop :=
  ∀ char ∈ left.head?, lineBreak ++ [char] ∉ lineBreaks

theorem takes_quotedChar {char : Char} (known : piece = if char = '"' then ['"', '"'] else [char]) :
    ((quotedChar : Grammar τ Char).parser call limit).Takes piece left (.success char) := by
  by_cases quote : char = '"'
  · rw [if_pos quote] at known
    subst quote known
    have refused : ((Grammar.noneOf "\"" : Grammar τ Char).parser call limit).Refuses
        (['"', '"'] ++ left) :=
      Parser.refuses_satisfy (Text.forall_head (by decide) _)
    exact .orElse_next refused ((Parser.takes_literal "\"\"").attempt.map fun _ => '"')
  · rw [if_neg quote] at known
    subst known
    have taken : ((Grammar.noneOf "\"" : Grammar τ Char).parser call limit).Takes [char] left
        (.success char) :=
      Parser.takes_satisfy (by simpa using quote)
    exact taken.orElse

/-- A quote stands for itself only with another one after it. -/
theorem refuses_quotedChar (single : left.head? ≠ some '"') :
    ((quotedChar : Grammar τ Char).parser call limit).Refuses ('"' :: left) := by
  have plain : ((Grammar.noneOf "\"" : Grammar τ Char).parser call limit).Refuses ('"' :: left) :=
    Parser.refuses_satisfy (Text.forall_head (by decide) _)
  have mismatch : (Parser.literal "\"\"").Takes ['"'] left (.failure (.literal "\"\"")) :=
    Parser.takes_mismatch ['"'] '"' rfl single
  exact plain.orElse (mismatch.attempt_refuses.map fun _ => '"')

theorem takes_quotedCell (content : List Char) (single : left.head? ≠ some '"')
    (rounds : content.length < limit) :
    ((quotedCell : Grammar τ (List Char)).parser call limit).Takes
      ('"' :: doubled content ++ ['"']) left (.success content) := by
  have looped : ((Grammar.many quotedChar : Grammar τ _).parser call limit).Takes (doubled content)
      ('"' :: left) (.success content) :=
    .many (pieces_doubled content) (fun _ _ _ known => takes_quotedChar known)
      (refuses_quotedChar single) rounds
  exact Parser.Takes.between Grammar.takes_char looped Grammar.takes_char

theorem refuses_quotedCell (unquoted : text.head? ≠ some '"') :
    ((quotedCell : Grammar τ (List Char)).parser call limit).Refuses text :=
  (Grammar.refuses_char unquoted).between

theorem mem_bare (char : Char) : char ∉ (separator.toString ++ "\n\r").toList ↔
    char ∉ [separator, '\n', '\r'] := by simp

theorem takes_bareCell (plain : ∀ char ∈ text, char ∉ [separator, '\n', '\r'])
    (stop : CellEnd separator left) (rounds : text.length < limit) :
    ((bareCell separator : Grammar τ (List Char)).parser call limit).Takes text left
      (.success text) := by
  refine .many (.ofChars plain) ?_ (Parser.refuses_satisfy fun char head => ?_) rounds
  · rintro char _ rest ⟨outside, rfl⟩
    exact Parser.takes_satisfy (decide_eq_true ((mem_bare char).mpr outside))
  · intro accepted
    exact (mem_bare char).mp (of_decide_eq_true accepted) (stop char head)

theorem length_le_doubled (content : List Char) : content.length ≤ (doubled content).length :=
  (pieces_doubled content).length_le fun char _ known => by
    rw [known]
    split <;> simp

theorem takes_cell {content : String} (known : CellText separator content text)
    (unquoted : separator ≠ '"') (stop : CellEnd separator left) (rounds : text.length < limit) :
    ((cell separator : Grammar τ String).parser call limit).Takes text left (.success content) := by
  have single : left.head? ≠ some '"' := by
    intro head
    have closing := stop '"' head
    simp [unquoted.symm] at closing
  have read : ((cell separator : Grammar τ String).parser call limit).Takes text left
      (.success (String.ofList content.toList)) := by
    cases known with
    | quoted =>
      have shorter := length_le_doubled content.toList
      simp only [List.length_append, List.length_cons] at rounds
      exact (takes_quotedCell content.toList single (by omega)).orElse.map String.ofList
    | bare plain opened =>
      have refused : ((quotedCell : Grammar τ (List Char)).parser call limit).Refuses
          (content.toList ++ left) := by
        apply refuses_quotedCell
        cases written : content.toList with
        | nil => exact single
        | cons char chars =>
          rw [written] at opened
          exact opened
      exact (Parser.Takes.orElse_next refused (takes_bareCell plain stop rounds)).map String.ofList
  rwa [String.ofList_toList] at read

/-- Every cell is taken up to the separator or the line break after it. -/
theorem takes_row (known : RowText separator cells text) (apart : separator ∉ ['"', '\n', '\r'])
    (stop : RowEnd left) (rounds : text.length < limit) :
    ((row separator : Grammar τ _).parser call limit).Takes text left (.success cells) := by
  have unquoted : separator ≠ '"' := fun same => apart (by simp [same])
  have visible : separator ∉ ['\n', '\r'] := fun member => apart (List.mem_cons_of_mem _ member)
  have stop' : CellEnd separator left :=
    fun char head => List.mem_cons_of_mem separator (stop char head)
  have bounded : Listed (fun content piece => CellText separator content piece ∧
      piece.length < limit) (· = [separator]) cells text :=
    known.listed.mono (fun _ _ read shorter => ⟨read, by omega⟩) fun _ same _ => same
  cases bounded with
  | nil => exact absurd rfl known.some
  | @cons content cells piece text first others =>
    have next : ∀ content piece rest, After (· = [separator]) (fun content piece =>
        CellText separator content piece ∧ piece.length < limit) content piece →
        CellEnd separator (piece ++ rest) := by
      rintro content _ rest ⟨rfl, _⟩
      exact Text.forall_head List.mem_cons_self _
    have round : ∀ content piece rest, After (· = [separator]) (fun content piece =>
        CellText separator content piece ∧ piece.length < limit) content piece →
        CellEnd separator rest →
        (Parser.seqRight ((Grammar.char separator : Grammar τ Char).parser call limit)
          ((cell separator : Grammar τ String).parser call limit)).Takes piece rest
          (.success content) := by
      rintro content _ rest ⟨rfl, read, short⟩ ends
      exact Grammar.takes_char.seqRight (takes_cell read unquoted ends short)
    have follows : CellEnd separator (text ++ left) := by
      cases others with
      | nil => exact stop'
      | cons second _ =>
        rw [List.append_assoc]
        exact next _ _ _ second
    have ended : ((Grammar.char separator : Grammar τ Char).parser call limit).Refuses left :=
      Grammar.refuses_char fun head => visible (stop separator head)
    have fewer : cells.length ≤ text.length := others.length_le <| by
      rintro _ _ ⟨rfl, _⟩
      exact List.cons_ne_nil separator _
    rw [List.length_append] at rounds
    exact .sepBy_cons (takes_cell first.1 unquoted follows first.2)
      (.ofPieces others round next stop') ended (by omega)

/-- The line breaks are tried from the longest to the shortest. -/
theorem takes_lineBreak (known : LineBreak text) (apart : Apart text left) :
    ((lineBreak : Grammar τ String).parser call limit).Takes text left
      (.success (String.ofList text)) := by
  have refused : ∀ (first : Char) {word : String} {others rest : List Char},
      word.toList = first :: others → rest.head? ≠ some first → (Parser.literal word).Refuses rest :=
    fun _ _ _ _ spelled differs => Parser.refuses_literal spelled differs
  have mismatched : ∀ (first second : Char) {word : String}, word.toList = [first, second] →
      left.head? ≠ some second → (Parser.literal word).attempt.Refuses (first :: left) :=
    fun first second _ spelled differs =>
      (Parser.takes_mismatch [first] second spelled differs).attempt_refuses
  simp only [LineBreak, lineBreaks, List.mem_cons, List.not_mem_nil, or_false] at known
  rcases known with rfl | rfl | rfl | rfl
  · exact (Parser.takes_literal "\n\r").attempt.orElse.orElse.orElse
  · exact (Parser.Takes.orElse_next (refused '\n' rfl (by simp)).attempt
      (Parser.takes_literal "\r\n").attempt).orElse.orElse
  · have differs : left.head? ≠ some '\r' := fun head => apart '\r' head (by decide)
    exact (Parser.Takes.orElse_next ((mismatched '\n' '\r' rfl differs).orElse
      (refused '\r' rfl (by simp)).attempt) (Parser.takes_literal "\n")).orElse
  · have differs : left.head? ≠ some '\n' := fun head => apart '\n' head (by decide)
    exact .orElse_next (((refused '\n' rfl (by simp)).attempt.orElse
      (mismatched '\r' '\n' rfl differs)).orElse (refused '\n' rfl (by simp)))
      (Parser.takes_literal "\r")

theorem refuses_lineBreak (other : ∀ char ∈ text.head?, char ∉ ['\n', '\r']) :
    ((lineBreak : Grammar τ String).parser call limit).Refuses text := by
  have linefeed : text.head? ≠ some '\n' := fun head => other '\n' head (by decide)
  have ret : text.head? ≠ some '\r' := fun head => other '\r' head (by decide)
  exact (((Parser.refuses_literal rfl linefeed).attempt.orElse
    (Parser.refuses_literal rfl ret).attempt).orElse
    (Parser.refuses_literal rfl linefeed)).orElse (Parser.refuses_literal rfl ret)

/-- A line break and the row after it, which are in one piece where that row does not make the
line break longer. -/
theorem takes_nextRow (known : LineBreak text) (written : RowText separator cells piece)
    (apart : separator ∉ ['"', '\n', '\r']) (ends : Apart text (piece ++ left)) (stop : RowEnd left)
    (rounds : piece.length < limit) :
    (Parser.seqRight ((lineBreak : Grammar τ String).parser call limit)
      ((row separator : Grammar τ _).parser call limit)).Takes (text ++ piece) left
      (.success cells) :=
  (takes_lineBreak known ends).seqRight (takes_row written apart stop rounds)

theorem rowEnd_nil : RowEnd [] := by
  rintro _ ⟨⟩

theorem LineBreak.rowEnd (known : LineBreak text) (rest : List Char) : RowEnd (text ++ rest) := by
  obtain ⟨first, others, rfl, member, _⟩ := lineBreaks_spec text known
  exact Text.forall_head member _

/-- A line break does not go on with itself. -/
theorem LineBreak.apart_self (known : LineBreak text) (rest : List Char) :
    Apart text (text ++ rest) := by
  obtain ⟨first, others, rfl, _, single⟩ := lineBreaks_spec text known
  exact Text.forall_head single _

/-- A line break is only made longer by another one. -/
theorem mem_of_longer : ∀ lineBreak ∈ lineBreaks, ∀ char, lineBreak ++ [char] ∈ lineBreaks →
    char ∈ ['\n', '\r'] := by
  simp [lineBreaks]

/-- A row that is not written as the empty text does not go on with a line break. -/
theorem apart_row (known : LineBreak text) (written : RowText separator cells piece)
    (apart : separator ∉ ['"', '\n', '\r']) (some : piece ≠ []) (left : List Char) :
    Apart text (piece ++ left) := by
  obtain ⟨first, others, rfl⟩ := List.exists_cons_of_ne_nil some
  refine Text.forall_head (fun longer => ?_) _
  have visible : first ∉ ['\n', '\r'] :=
    written.head (fun member => apart (List.mem_cons_of_mem _ member)) first rfl
  exact visible (mem_of_longer text known first longer)

section Tables

variable (apart : separator ∉ ['"', '\n', '\r'])
include apart

/-- With the same line break throughout, rows may be written as the empty text. -/
theorem inLine_uniform {word : List Char} (known : LineBreak word)
    (written : Pieces (After (· = word) (RowText separator)) rows text)
    (rounds : text.length < limit) :
    Parser.InLine (Parser.seqRight ((lineBreak : Grammar τ String).parser call limit)
      ((row separator : Grammar τ _).parser call limit)) [] rows text := by
  have bounded : Pieces (fun cells piece => After (· = word) (RowText separator) cells piece ∧
      piece.length < limit) rows text :=
    written.mono fun _ _ read shorter => ⟨read, by omega⟩
  refine .ofPieces (T := fun rest => rest = [] ∨ ∃ more, rest = word ++ more) bounded ?_ ?_
    (.inl rfl)
  · rintro cells _ rest ⟨@⟨between, piece, _, same, written⟩, short⟩ follows
    obtain rfl := same.symm
    rw [List.length_append] at short
    have ends : Apart word (piece ++ rest) := by
      by_cases empty : piece = []
      · subst empty
        rcases follows with rfl | ⟨more, rfl⟩
        · rintro _ ⟨⟩
        · exact known.apart_self more
      · exact apart_row known written apart empty rest
    have stop : RowEnd rest := by
      rcases follows with rfl | ⟨more, rfl⟩
      · exact rowEnd_nil
      · exact known.rowEnd more
    exact takes_nextRow known written apart ends stop (by omega)
  · rintro cells _ rest ⟨⟨rfl, _⟩, _⟩
    exact .inr ⟨_, List.append_assoc _ _ _⟩

/-- The rows in the middle are not written as the empty text, and nothing follows the last one. -/
theorem inLine_mixed {last : List String} {tail : List Char}
    (written : Pieces (After LineBreak fun cells piece => RowText separator cells piece ∧ piece ≠ [])
      rows text) (closed : NextRow separator last tail) (rounds : (text ++ tail).length < limit) :
    Parser.InLine (Parser.seqRight ((lineBreak : Grammar τ String).parser call limit)
      ((row separator : Grammar τ _).parser call limit)) [] (rows ++ [last]) (text ++ tail) := by
  rw [List.length_append] at rounds
  have bounded : Pieces (fun cells piece => After LineBreak (fun cells piece =>
      RowText separator cells piece ∧ piece ≠ []) cells piece ∧ piece.length < limit) rows text :=
    written.mono fun _ _ read shorter => ⟨read, by omega⟩
  obtain @⟨word, piece, _, between, ending⟩ := closed
  rw [List.length_append] at rounds
  have final : Parser.InLine (Parser.seqRight ((lineBreak : Grammar τ String).parser call limit)
      ((row separator : Grammar τ _).parser call limit)) [] [last] (word ++ piece) := by
    have ends : Apart word (piece ++ []) := by
      by_cases empty : piece = []
      · subst empty
        rintro _ ⟨⟩
      · exact apart_row between ending apart empty []
    rw [← List.append_nil (word ++ piece)]
    exact .cons (takes_nextRow between ending apart ends rowEnd_nil (by omega)) .nil
  refine .append (.ofPieces (T := RowEnd) bounded ?_ ?_ ?_) final
  · rintro cells _ rest ⟨⟨between, written, some⟩, short⟩ stop
    rw [List.length_append] at short
    exact takes_nextRow between written apart (apart_row between written apart some rest) stop
      (by omega)
  · rintro cells _ rest ⟨⟨between, _⟩, _⟩
    rw [List.append_assoc]
    exact between.rowEnd _
  · rw [List.append_nil, ← List.append_nil (word ++ piece), List.append_assoc]
    exact between.rowEnd _

/-- A table is a row and the others in line after it. -/
theorem takes_table {first : List String} {head : List Char}
    (begun : RowText separator first head)
    (others : Parser.InLine (Parser.seqRight ((lineBreak : Grammar τ String).parser call limit)
      ((row separator : Grammar τ _).parser call limit)) [] rows text)
    (follows : RowEnd text) (fewer : rows.length < limit) (rounds : head.length < limit) :
    ((table separator : Grammar τ _).parser call limit).Takes (head ++ text) []
      (.success (first :: rows)) := by
  have taken : ((row separator : Grammar τ _).parser call limit).Takes head (text ++ [])
      (.success first) := by
    rw [List.append_nil]
    exact takes_row begun apart follows rounds
  have listed : ((Grammar.sepBy (row separator) lineBreak : Grammar τ _).parser call limit).Takes
      (head ++ text) [] (.success (first :: rows)) :=
    .sepBy_cons taken others (refuses_lineBreak (by simp)) fewer
  rw [← List.append_nil (head ++ text)]
  exact listed.seqLeft Grammar.takes_eof

end Tables

theorem TableText.takes (written : TableText separator rows text)
    (apart : separator ∉ ['"', '\n', '\r']) (rounds : text.length < limit) :
    ((table separator : Grammar τ _).parser call limit).Takes text [] (.success rows) := by
  cases written with
  | @uniform _ _ word some known listed =>
    cases listed with
    | nil => exact absurd rfl some
    | @cons _ _ _ text begun others =>
      rw [List.length_append] at rounds
      have fewer := others.length_le <| by
        rintro _ _ ⟨rfl, _⟩
        simp [known.ne_nil]
      have follows : RowEnd text := by
        cases others with
        | nil => exact rowEnd_nil
        | cons next _ =>
          obtain ⟨rfl, _⟩ := next
          rw [List.append_assoc]
          exact known.rowEnd _
      exact takes_table apart begun (inLine_uniform apart known others (by omega)) follows
        (by omega) (by omega)
  | @mixed first last middle head inner tail begun others closed =>
    rw [List.append_assoc, List.length_append] at rounds
    have total : (inner ++ tail).length = inner.length + tail.length := List.length_append
    have count : (middle ++ [last]).length = middle.length + 1 := List.length_append
    have fewer := others.length_le <| by
      rintro _ _ ⟨between, _⟩
      simp [between.ne_nil]
    have positive := List.length_pos_iff.mpr closed.ne_nil
    have follows : RowEnd (inner ++ tail) := by
      cases others with
      | nil =>
        obtain ⟨between, _⟩ := closed
        rw [List.nil_append]
        exact between.rowEnd _
      | cons next _ =>
        obtain ⟨between, _⟩ := next
        rw [List.append_assoc, List.append_assoc]
        exact between.rowEnd _
    rw [List.append_assoc]
    have fewer' : (middle ++ [last]).length < limit := by omega
    exact takes_table apart begun (inLine_mixed apart others closed (by omega)) follows fewer'
      (by omega)

/-- Every text that a table may be written as is parsed to the table. -/
theorem parse_of_tableText {source : String} (apart : separator ∉ ['"', '\n', '\r'])
    (written : TableText separator rows source.toList) :
    parse? separator source = some (.ok rows) := by
  have ample : source.toList.length < Grammar.ampleFuel 0 source := by
    rw [String.length_toList, Grammar.ampleFuel]
    omega
  have start : (State.start source).Splits [] (source.toList ++ []) := by
    simpa using State.splits_start source
  have taken : ((table separator).run Rules.empty (Grammar.ampleFuel 0 source)).Takes
      source.toList [] (.success rows) :=
    written.takes apart ample
  obtain ⟨after, run, _⟩ := taken start
  rw [parse?, Grammar.parse, run]
  rfl

/-- Quotes, a separator and a line break inside cells, two kinds of line breaks between rows, and a
last row that is written as the empty text. -/
theorem mixed_table_parsed :
    let rows := [["a\"b", "c;\r"], ["x"], [""]]
    let source := "\"a\"\"b\";\"c;\r\"\n\rx\r"
    TableText ';' rows source.toList ∧ parse? ';' source = some (.ok rows) := by
  intro rows source
  have quotes : CellText ';' "a\"b" "\"a\"\"b\"".toList := .quoted "a\"b"
  have marks : CellText ';' "c;\r" "\"c;\r\"".toList := .quoted "c;\r"
  have letter : CellText ';' "x" "x".toList := .bare (by simp) (by simp)
  have nothing : CellText ';' "" "".toList := .bare (by simp) (by simp)
  have next : After (· = [';']) (CellText ';') "c;\r" ([';'] ++ "\"c;\r\"".toList) := .mk rfl marks
  have first : RowText ';' ["a\"b", "c;\r"]
      ("\"a\"\"b\"".toList ++ ([';'] ++ "\"c;\r\"".toList)) :=
    ⟨by simp, .cons quotes (.single next)⟩
  have second : RowText ';' ["x"] ("x".toList ++ []) := ⟨by simp, .cons letter .nil⟩
  have third : RowText ';' [""] ("".toList ++ []) := ⟨by simp, .cons nothing .nil⟩
  have middle : Pieces (After LineBreak fun cells piece => RowText ';' cells piece ∧ piece ≠ [])
      [["x"]] ("\n\r".toList ++ ("x".toList ++ [])) :=
    .single (.mk (by decide) ⟨second, by simp⟩)
  have last : NextRow ';' [""] ("\r".toList ++ ("".toList ++ [])) := .mk (by decide) third
  have written : TableText ';' rows source.toList := by
    simpa [rows, source] using TableText.mixed first middle last
  exact ⟨written, parse_of_tableText (by decide) written⟩

end CommittedChoice.Csv
