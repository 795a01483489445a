import CommittedChoice.Proofs.Csv.Soundness
import CommittedChoice.Proofs.Reading.Entries

/-! The grammar of tables is founded. Cells and rows may be empty, but every round of a loop reads a
character of a cell, a separator or a line break, whichever character the separator is. -/
namespace CommittedChoice.Csv

variable {ι : Type} {τ : ι → Type} {rules : Rules τ} {names : ι → Prop} {moved : Prop}
  {separator : Char}

theorem consumes_quotedChar : (quotedChar : Grammar τ Char).Consumes rules :=
  Grammar.consumes_of_yields fun fuel =>
    (yields_quotedChar (rules.parser_local fuel fuel)).mono fun char _ known => by
      rw [known]
      split <;> exact List.cons_ne_nil _ _

theorem consumes_lineBreak : (lineBreak : Grammar τ String).Consumes rules :=
  Grammar.consumes_of_yields fun _ => yields_lineBreak.mono fun _ _ known => known.ne_nil

theorem founded_cell : (cell separator : Grammar τ String).Founded rules names moved :=
  ⟨⟨trivial, trivial, ⟨trivial, trivial⟩, consumes_quotedChar⟩, trivial,
    Grammar.consumes_satisfy _⟩

theorem founded_row : (row separator : Grammar τ _).Founded rules names moved :=
  ⟨founded_cell, trivial, ((Grammar.consumes_satisfy _).label _).seqRight _⟩

theorem founded_table : (table separator : Grammar τ _).Founded rules names moved := by
  have breaks : (lineBreak : Grammar τ String).Founded rules names moved :=
    ⟨⟨⟨trivial, trivial⟩, trivial⟩, trivial⟩
  exact ⟨⟨founded_row, breaks, consumes_lineBreak.seqRight _⟩, trivial, trivial⟩

theorem parse?_isSome (separator : Char) (source : String) :
    ∃ result, parse? separator source = some result := by
  have founded : (table separator).Founded .empty (fun _ => True) False := founded_table
  exact founded.parse_isSome (fun name => nomatch name) 0 source

end CommittedChoice.Csv
