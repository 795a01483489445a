import CommittedChoice.Proofs.Reading.Pieces

/-! How tables are written, apart from how they are parsed. A cell stands between quotes or bare,
and the separator and four line breaks join cells to rows and rows to tables. Two line breaks next
to each other can be another one, so that the breaks of a table with empty rows are all the same. -/
namespace CommittedChoice.Csv

/-- Every quote is written twice. -/
def doubled (content : List Char) : List Char :=
  content.flatMap fun char => if char = '"' then ['"', '"'] else [char]

inductive CellText (separator : Char) : String → List Char → Prop where
  | quoted (content : String) :
      CellText separator content ('"' :: doubled content.toList ++ ['"'])
  | bare {content : String} (plain : ∀ char ∈ content.toList, char ∉ [separator, '\n', '\r'])
      (unquoted : content.toList.head? ≠ some '"') : CellText separator content content.toList

/-- Cells with the separator between them, at least one. -/
structure RowText (separator : Char) (cells : List String) (text : List Char) : Prop where
  some : cells ≠ []
  listed : Listed (CellText separator) (· = [separator]) cells text

def lineBreaks : List (List Char) := [['\n', '\r'], ['\r', '\n'], ['\n'], ['\r']]

abbrev LineBreak (text : List Char) : Prop := text ∈ lineBreaks

/-- A row with a line break before it. -/
abbrev NextRow (separator : Char) : List String → List Char → Prop :=
  After LineBreak (RowText separator)

/-- Rows with any line breaks between them. -/
abbrev RowsText (separator : Char) : List (List String) → List Char → Prop :=
  Listed (RowText separator) LineBreak

/-- The texts that stand for one table: the line breaks in it are the same throughout, or they are
any and no row between the first and the last is written as the empty text. -/
inductive TableText (separator : Char) : List (List String) → List Char → Prop where
  | uniform {rows : List (List String)} {text lineBreak : List Char} (some : rows ≠ [])
      (known : LineBreak lineBreak) (listed : Listed (RowText separator) (· = lineBreak) rows text) :
      TableText separator rows text
  | mixed {first last : List String} {middle : List (List String)} {head inner tail : List Char}
      (begun : RowText separator first head)
      (rows : Pieces (After LineBreak fun row piece => RowText separator row piece ∧ piece ≠ [])
        middle inner)
      (closed : NextRow separator last tail) :
      TableText separator (first :: middle ++ [last]) (head ++ inner ++ tail)

/-- A text after which a cell begins. -/
inductive CellStart (separator : Char) : List Char → Prop where
  | first : CellStart separator []
  | nextCell {rows : List (List String)} {text : List Char} (written : RowsText separator rows text) :
      CellStart separator (text ++ [separator])
  | nextRow {rows : List (List String)} {text lineBreak : List Char}
      (written : RowsText separator rows text) (known : LineBreak lineBreak) :
      CellStart separator (text ++ lineBreak)

/-- A text with a quoted cell that is not closed, or not followed by a separator, a line break or
the end. -/
inductive Malformed (separator : Char) : List Char → Prop where
  | unterminated {before content : List Char} (start : CellStart separator before) :
      Malformed separator (before ++ '"' :: doubled content)
  | trailing {before content rest : List Char} {char : Char} (start : CellStart separator before)
      (other : char ∉ ['"', separator, '\n', '\r']) :
      Malformed separator (before ++ '"' :: doubled content ++ '"' :: char :: rest)

variable {separator : Char} {text : List Char}

theorem lineBreaks_spec : ∀ lineBreak ∈ lineBreaks, ∃ first rest, lineBreak = first :: rest ∧
    first ∈ ['\n', '\r'] ∧ lineBreak ++ [first] ∉ lineBreaks := by
  simp [lineBreaks]

theorem LineBreak.ne_nil (known : LineBreak text) : text ≠ [] := by
  obtain ⟨first, rest, rfl, _⟩ := lineBreaks_spec text known
  exact List.cons_ne_nil first rest

theorem NextRow.ne_nil {cells : List String} (known : NextRow separator cells text) :
    text ≠ [] := by
  obtain ⟨between, _⟩ := known
  simp [between.ne_nil]

theorem doubled_cons (char : Char) (content : List Char) :
    doubled (char :: content) = (if char = '"' then ['"', '"'] else [char]) ++ doubled content :=
  List.flatMap_cons

/-- A content with its quotes written twice is written character by character. -/
theorem pieces_doubled (content : List Char) :
    Pieces (fun char piece => piece = if char = '"' then ['"', '"'] else [char]) content
      (doubled content) :=
  .flatMap fun _ _ => rfl

theorem eq_doubled {content : List Char} (pieces : Pieces
    (fun char piece => piece = if char = '"' then ['"', '"'] else [char]) content text) :
    text = doubled content := by
  induction pieces with
  | nil => rfl
  | cons first _ ih =>
    rw [first, ih, doubled_cons]

/-- Every row of a written table has a cell. -/
theorem RowsText.rows_ne_nil {rows : List (List String)} (written : RowsText separator rows text) :
    ∀ row ∈ rows, row ≠ [] := by
  cases written with
  | nil => simp
  | cons first others =>
    refine List.forall_mem_cons.mpr ⟨first.some, ?_⟩
    clear first
    induction others with
    | nil => simp
    | cons next _ ih =>
      obtain ⟨_, row⟩ := next
      exact List.forall_mem_cons.mpr ⟨row.some, ih⟩

/-- A row begins like its first cell or, when that is written as the empty text, with a
separator. -/
theorem RowText.head {cells : List String} (known : RowText separator cells text)
    (apart : separator ∉ ['\n', '\r']) : ∀ char ∈ text.head?, char ∉ ['\n', '\r'] := by
  obtain ⟨some, listed⟩ := known
  cases listed with
  | nil => exact absurd rfl some
  | @cons content _ _ _ first others =>
    cases first with
    | quoted =>
      rintro _ ⟨⟩
      decide
    | bare plain _ =>
      cases written : content.toList with
      | cons char chars =>
        rw [written] at plain
        rintro _ ⟨⟩ member
        exact plain char List.mem_cons_self (List.mem_cons_of_mem separator member)
      | nil =>
        cases others with
        | nil => simp
        | cons next _ =>
          obtain ⟨rfl, _⟩ := next
          rintro _ ⟨⟩
          exact apart

end CommittedChoice.Csv
