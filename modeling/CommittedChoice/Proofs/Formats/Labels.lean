import CommittedChoice.Csv
import CommittedChoice.Json.Syntax
import CommittedChoice.Proofs.Labels.Labelled

/-! The grammars of tables and of JSON texts are well labelled: the one explicit failure that they
make, for a number out of range, has one label. -/
namespace CommittedChoice

variable {ι : Type} {τ : ι → Type} {α : Type}

theorem Csv.wellLabelled_table (separator : Char) :
    (table separator : Grammar τ (List (List String))).WellLabelled := by
  have cells : (cell separator : Grammar τ String).WellLabelled :=
    ⟨⟨trivial, trivial, trivial, trivial⟩, trivial⟩
  have breaks : (lineBreak : Grammar τ String).WellLabelled :=
    ⟨⟨⟨trivial, trivial⟩, trivial⟩, trivial⟩
  exact ⟨⟨⟨cells, trivial⟩, breaks⟩, trivial, trivial⟩

namespace Json

variable {convert : String → Option Number} {nested : Grammar τ Json}

theorem wellLabelled_lexeme {g : Grammar τ α} (labelled : g.WellLabelled) :
    (lexeme g).WellLabelled :=
  ⟨labelled, trivial⟩

theorem wellLabelled_structural (char : Char) :
    (structural char : Grammar τ Char).WellLabelled :=
  wellLabelled_lexeme trivial

theorem wellLabelled_string : (stringText : Grammar τ String).WellLabelled := by
  have fragment : (Grammar.orElse unescaped escape : Grammar τ Fragment).WellLabelled :=
    ⟨trivial, trivial, trivial, trivial, trivial⟩
  exact ⟨trivial, trivial, fragment⟩

theorem wellLabelled_number : (numberText convert : Grammar τ Json).WellLabelled := by
  have literal : (numberLiteral : Grammar τ String).WellLabelled :=
    ⟨⟨⟨trivial, trivial, trivial, trivial⟩, trivial, trivial⟩, ⟨trivial, trivial⟩, trivial⟩
  refine ⟨literal, fun text => ?_⟩
  unfold numberOf
  split
  · trivial
  · exact .label _

theorem wellLabelled_bracketed {g : Grammar τ α} (first last : Char) (items : g.WellLabelled) :
    (Grammar.between (structural first) (structural last)
      (.sepBy g (structural ','))).WellLabelled :=
  ⟨wellLabelled_structural first, wellLabelled_structural last, items, wellLabelled_structural ','⟩

section Nested

variable (labelled : nested.WellLabelled)
include labelled

theorem wellLabelled_array : (arrayText nested).WellLabelled :=
  wellLabelled_bracketed '[' ']' labelled

theorem wellLabelled_object : (objectText nested).WellLabelled :=
  wellLabelled_bracketed '\x7b' '\x7d'
    ⟨⟨wellLabelled_lexeme wellLabelled_string, wellLabelled_structural ':'⟩, labelled⟩

theorem wellLabelled_value : (valueText convert nested).WellLabelled := by
  refine wellLabelled_lexeme (Grammar.wellLabelled_choiceOf ?_)
  simp only [List.forall_mem_cons]
  exact ⟨trivial, trivial, trivial, wellLabelled_object labelled, wellLabelled_array labelled,
    wellLabelled_number, wellLabelled_string, nofun⟩

theorem wellLabelled_document : (document nested).WellLabelled :=
  ⟨⟨trivial, wellLabelled_object labelled, wellLabelled_array labelled⟩, trivial, trivial⟩

end Nested

theorem rules_wellLabelled (name : Unit) : (rules convert name).WellLabelled := by
  have nested : (.rule name : Grammar (fun _ : Unit => Json) Json).WellLabelled := trivial
  exact wellLabelled_value nested

end Json

end CommittedChoice
