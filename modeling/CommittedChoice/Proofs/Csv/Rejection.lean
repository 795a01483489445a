import CommittedChoice.Proofs.Csv.Termination

/-! A text with a broken quoted cell is rejected. A scan over the characters of a text tells whether
it stands inside a quoted cell or behind a broken one, where no way to write a table ends. -/
namespace CommittedChoice.Csv

/-- Where in a cell a text has come to. -/
inductive Scan where
  | start
  | bare
  | quoted
  | closed
  | broken

variable {separator : Char} {text : List Char} {scan : Scan}

namespace Scan

def step (separator : Char) : Scan → Char → Scan
  | .start, char =>
    if char = '"' then .quoted else if char ∈ [separator, '\n', '\r'] then .start else .bare
  | .bare, char => if char ∈ [separator, '\n', '\r'] then .start else .bare
  | .quoted, char => if char = '"' then .closed else .quoted
  | .closed, char =>
    if char = '"' then .quoted else if char ∈ [separator, '\n', '\r'] then .start else .broken
  | .broken, _ => .broken

def through (separator : Char) (text : List Char) (scan : Scan) : Scan :=
  text.foldl (step separator) scan

theorem through_append (text rest : List Char) (scan : Scan) :
    through separator (text ++ rest) scan = through separator rest (through separator text scan) :=
  List.foldl_append

theorem through_cons (char : Char) (text : List Char) (scan : Scan) :
    through separator (char :: text) scan = through separator text (scan.step separator char) := rfl

/-- A cell may end here. -/
def Complete : Scan → Prop
  | .start | .bare | .closed => True
  | .quoted | .broken => False

theorem Complete.step {char : Char} (complete : scan.Complete) (unquoted : separator ≠ '"')
    (mark : char ∈ [separator, '\n', '\r']) : scan.step separator char = .start := by
  have other : char ≠ '"' := by
    rintro rfl
    simp [unquoted.symm] at mark
  cases scan with
  | start | closed => simp only [Scan.step, other, mark, if_true, if_false]
  | bare => simp only [Scan.step, mark, if_true]
  | quoted | broken => cases complete

theorem through_doubled (content : List Char) :
    through separator (doubled content) .quoted = .quoted := by
  induction content with
  | nil => rfl
  | cons char content ih =>
    rw [doubled_cons, through_append]
    have back : through separator (if char = '"' then ['"', '"'] else [char]) .quoted = .quoted := by
      by_cases quote : char = '"' <;> simp [quote, through, step]
    rw [back, ih]

theorem through_opened (content : List Char) :
    through separator ('"' :: doubled content) .start = .quoted :=
  through_doubled content

theorem through_broken (text : List Char) : through separator text .broken = .broken := by
  induction text with
  | nil => rfl
  | cons char text ih => exact ih

theorem through_bare (plain : ∀ char ∈ text, char ∉ [separator, '\n', '\r']) :
    through separator text .bare = .bare := by
  induction text with
  | nil => rfl
  | cons char text ih =>
    rw [List.forall_mem_cons] at plain
    rw [through_cons, step, if_neg plain.1]
    exact ih plain.2

/-- A line break or a separator leads from the end of a cell to the start of the next. -/
theorem Complete.through_marks (complete : scan.Complete) (unquoted : separator ≠ '"')
    (marks : ∀ char ∈ text, char ∈ [separator, '\n', '\r']) (some : text ≠ []) :
    through separator text scan = .start := by
  induction text generalizing scan with
  | nil => exact absurd rfl some
  | cons char text ih =>
    rw [List.forall_mem_cons] at marks
    rw [through_cons, complete.step unquoted marks.1]
    by_cases last : text = []
    · rw [last]
      rfl
    · exact ih trivial marks.2 last

end Scan

theorem CellText.complete {content : String} (written : CellText separator content text) :
    (Scan.through separator text .start).Complete := by
  cases written with
  | quoted =>
    rw [Scan.through_append, Scan.through_opened]
    trivial
  | bare plain unquoted =>
    cases spelled : content.toList with
    | nil => trivial
    | cons char chars =>
      rw [spelled] at plain unquoted
      rw [List.forall_mem_cons] at plain
      have other : char ≠ '"' := fun same => unquoted (congrArg some same)
      rw [Scan.through_cons, Scan.step, if_neg other, if_neg plain.1, Scan.through_bare plain.2]
      trivial

/-- Items that are complete make up a list that is, when what separates them leads back to the
start. -/
theorem complete_of_listed {α : Type} {R : α → List Char → Prop} {S : List Char → Prop}
    {values : List α} (listed : Listed R S values text)
    (items : ∀ value piece, R value piece → (Scan.through separator piece .start).Complete)
    (apart : ∀ word, S word → ∀ scan : Scan, scan.Complete →
      Scan.through separator word scan = .start) : (Scan.through separator text .start).Complete := by
  have others : ∀ {values : List α} {text : List Char}, Pieces (After S R) values text →
      ∀ scan : Scan, scan.Complete → (Scan.through separator text scan).Complete := by
    intro values text pieces
    induction pieces with
    | nil => exact fun _ complete => complete
    | cons next _ ih =>
      intro scan complete
      obtain ⟨between, read⟩ := next
      rw [Scan.through_append, Scan.through_append, apart _ between scan complete]
      exact ih _ (items _ _ read)
  cases listed with
  | nil => trivial
  | cons first rest =>
    rw [Scan.through_append]
    exact others rest _ (items _ _ first)

theorem LineBreak.marks (known : LineBreak text) (separator : Char) :
    ∀ char ∈ text, char ∈ [separator, '\n', '\r'] := by
  have breaks : ∀ word ∈ lineBreaks, ∀ char ∈ word, char ∈ ['\n', '\r'] := by
    simp [lineBreaks]
  exact fun char member => List.mem_cons_of_mem separator (breaks text known char member)

section Marks

variable (unquoted : separator ≠ '"')
include unquoted

theorem RowText.complete {cells : List String} (written : RowText separator cells text) :
    (Scan.through separator text .start).Complete := by
  refine complete_of_listed written.listed (fun _ _ cell => cell.complete) ?_
  rintro _ rfl scan complete
  exact complete.through_marks unquoted (by simp) (by simp)

theorem complete_rows {rows : List (List String)} (written : RowsText separator rows text) :
    (Scan.through separator text .start).Complete :=
  complete_of_listed written (fun _ _ row => row.complete unquoted) fun _ known _ complete =>
    complete.through_marks unquoted (known.marks separator) known.ne_nil

theorem CellStart.through (start : CellStart separator text) :
    Scan.through separator text .start = .start := by
  cases start with
  | first => rfl
  | nextCell written =>
    rw [Scan.through_append]
    exact (complete_rows unquoted written).through_marks unquoted (by simp) (by simp)
  | nextRow written known =>
    rw [Scan.through_append]
    exact (complete_rows unquoted written).through_marks unquoted (known.marks separator) known.ne_nil

theorem Malformed.incomplete (malformed : Malformed separator text) :
    ¬(Scan.through separator text .start).Complete := by
  cases malformed with
  | unterminated start =>
    rw [Scan.through_append, start.through unquoted, Scan.through_opened]
    exact id
  | trailing start other =>
    have apart := not_or.mp (mt List.mem_cons.mpr other)
    rw [Scan.through_append, Scan.through_append, start.through unquoted, Scan.through_opened,
      Scan.through_cons, Scan.through_cons]
    simp only [Scan.step, if_true, if_neg apart.1, if_neg apart.2, Scan.through_broken]
    exact id

end Marks

/-- A table is parsed from a text only if it is written there, from the first character to the last,
with a row in it and a cell in every row; and a text with a broken quoted cell is rejected. -/
theorem parse_written (separator : Char) (source : String) :
    (∀ rows, parse? separator source = some (.ok rows) →
      rows ≠ [] ∧ (∀ row ∈ rows, row ≠ []) ∧ RowsText separator rows source.toList) ∧
    (separator ≠ '"' → Malformed separator source.toList →
      ∃ failure, parse? separator source = some (.error failure)) := by
  refine ⟨fun rows ended => ?_, fun unquoted malformed => ?_⟩
  · obtain ⟨some, written⟩ := rowsText_of_parse ended
    exact ⟨some, written.rows_ne_nil, written⟩
  · obtain ⟨failure | rows, ended⟩ := parse?_isSome separator source
    · exact ⟨failure, ended⟩
    · have written := (rowsText_of_parse ended).2
      exact absurd (complete_rows unquoted written) (malformed.incomplete unquoted)

/-- The separator may be a line break; and after a closing quote a letter is not read. -/
theorem broken_table_rejected :
    parse? '\n' "a\n\"b\"\"\"" = some (.ok [["a", "b\""]]) ∧
      RowsText '\n' [["a", "b\""]] "a\n\"b\"\"\"".toList ∧
      Malformed ',' "a,b\r\"c\"d".toList ∧
      ∃ failure, parse? ',' "a,b\r\"c\"d" = some (.error failure) := by
  have ended : parse? '\n' "a\n\"b\"\"\"" = some (.ok [["a", "b\""]]) := by rfl
  have first : CellText ',' "a" "a".toList := .bare (by simp) (by simp)
  have second : CellText ',' "b" "b".toList := .bare (by simp) (by simp)
  have next : After (· = [',']) (CellText ',') "b" ([','] ++ "b".toList) := .mk rfl second
  have row : RowText ',' ["a", "b"] ("a".toList ++ ([','] ++ "b".toList)) :=
    ⟨by simp, .cons first (.single next)⟩
  have rows : RowsText ',' [["a", "b"]] ("a".toList ++ ([','] ++ "b".toList) ++ []) :=
    .cons row .nil
  have start : CellStart ',' ("a".toList ++ ([','] ++ "b".toList) ++ [] ++ ['\r']) :=
    .nextRow rows (by decide)
  have malformed : Malformed ',' "a,b\r\"c\"d".toList := by
    have broken : Malformed ',' (_ ++ '"' :: doubled ['c'] ++ '"' :: 'd' :: []) :=
      .trailing start (by decide)
    simpa [doubled] using broken
  exact ⟨ended, ((parse_written _ _).1 _ ended).2.2, malformed,
    (parse_written _ _).2 (by decide) malformed⟩

end CommittedChoice.Csv
