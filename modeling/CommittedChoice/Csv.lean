import CommittedChoice.Grammar.Characters
import CommittedChoice.Grammar.Run

/-! Tables of cells. A quoted cell may hold anything, its quotes written twice; a bare cell ends
at the next separator or line break. Rows are split at LF CR, CR LF, LF and CR. -/
namespace CommittedChoice.Csv

variable {ι : Type} {τ : ι → Type}

def defaultSeparator : Char := ','

def quotedChar : Grammar τ Char :=
  .orElse (.noneOf "\"") (.map (fun _ => '"') (.attempt (.literal "\"\"")))

def quotedCell : Grammar τ (List Char) :=
  .between (.char '"') (.char '"') (.many quotedChar)

def bareCell (separator : Char) : Grammar τ (List Char) :=
  .many (.noneOf (separator.toString ++ "\n\r"))

def cell (separator : Char) : Grammar τ String :=
  .map String.ofList (.orElse quotedCell (bareCell separator))

def row (separator : Char) : Grammar τ (List String) :=
  .sepBy (cell separator) (.char separator)

def lineBreak : Grammar τ String :=
  .orElse
    (.orElse (.orElse (.attempt (.literal "\n\r")) (.attempt (.literal "\r\n"))) (.literal "\n"))
    (.literal "\r")

def table (separator : Char) : Grammar τ (List (List String)) :=
  .seqLeft (.sepBy (row separator) lineBreak) .eof

def parse? (separator : Char) (input : String) : Option (Except Failure (List (List String))) :=
  (table separator).parse .empty (Grammar.ampleFuel 0 input) input

end CommittedChoice.Csv
