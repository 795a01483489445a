import CommittedChoice.Proofs.Diagnosis.Exact
import CommittedChoice.Proofs.Script.Labels

/-! Sets of labels form a left-regular band with a unit under merging, and a failure lists one of
them. So whatever a grammar is and wherever it runs, no diagnostic lists a label twice. -/
namespace CommittedChoice

/-- On its members the operation is associative and has a unit, and a member adds nothing once it
has been combined. -/
structure LeftRegularBand {α : Type} (member : α → Prop) (unit : α) (op : α → α → α) : Prop where
  member_unit : member unit
  member_op {first second : α} (left : member first) (right : member second) :
    member (op first second)
  op_assoc {first second third : α} (left : member first) (middle : member second)
    (right : member third) : op (op first second) third = op first (op second third)
  unit_op {element : α} (known : member element) : op unit element = element
  op_unit {element : α} (known : member element) : op element unit = element
  op_self {element : α} (known : member element) : op element element = element
  op_op_left {first second : α} (left : member first) (right : member second) :
    op (op first second) first = op first second

theorem Expected.leftRegularBand : LeftRegularBand Made nothing merge where
  member_unit := .nothing
  member_op left right := .merge left right
  op_assoc _ _ _ := merge_assoc _ _ _
  unit_op known := nothing_merge known.nodup
  op_unit _ := merge_nothing _
  op_self _ := merge_self _
  op_op_left _ _ := merge_merge_left _ _

theorem Grammar.expected_made {ι : Type} {τ : ι → Type} {α : Type} {rules : Rules τ}
    {g : Grammar τ α} {fuel : Nat} {input : String} {failure : Failure}
    (rules_labelled : ∀ name, (rules name).WellLabelled) (labelled : g.WellLabelled)
    (failed : g.parse rules fuel input = some (.error failure)) : failure.expected.Made := by
  obtain ⟨after, ended, _⟩ := parse_error failed
  exact Replies.made rules_labelled labelled ⟨fuel, ended⟩

/-- What is built from nothing and from single labels by merging is what lists no label twice. There
merging is a left-regular band with nothing as its unit: the labels of the first keep their places,
and those that only the second has follow in its order. Every failure of a grammar, from every
state, expects such a set when the explicit failures in its tree do, as in all that scripts
describe; so no diagnostic lists a label twice. -/
theorem labels_listed_once :
    LeftRegularBand Expected.Made .nothing .merge ∧
    (∀ expected : Expected, expected.Made ↔ expected.alternatives.Nodup) ∧
    (∀ first second : Expected, first.Made → second.Made →
      (first.merge second).alternatives =
          first.alternatives ++ second.alternatives.filter (· ∉ first.alternatives) ∧
        ∀ text, text ∈ (first.merge second).alternatives ↔
          text ∈ first.alternatives ∨ text ∈ second.alternatives) ∧
    (∀ {ι : Type} {τ : ι → Type} {α : Type} {rules : Rules τ} {g : Grammar τ α},
      (∀ name, (rules name).WellLabelled) → g.WellLabelled →
      (∀ state expected after, g.Replies rules state (.failure expected, after) →
        expected.Made) ∧
      ∀ fuel input failure, g.parse rules fuel input = some (.error failure) →
        failure.expected.alternatives.Nodup) ∧
    ∀ definitions (node : Script.Node),
      (∀ name, (Script.rules definitions name).WellLabelled) ∧ node.grammar.WellLabelled := by
  refine ⟨Expected.leftRegularBand, fun _ => Expected.made_iff_nodup, fun first second _ made => ?_,
    fun rules_labelled labelled => ?_, fun definitions node => ?_⟩
  · exact ⟨Expected.alternatives_merge made.nodup, fun _ => Expected.mem_merge⟩
  · constructor
    · intro state expected after failed
      exact failed.made rules_labelled labelled
    · intro fuel input failure failed
      exact (Grammar.expected_made rules_labelled labelled failed).nodup
  · exact ⟨Script.rules_wellLabelled definitions, node.wellLabelled⟩

/-- The terminator and the items of a list mention the same label, behind a value that was read. -/
theorem mentioned_again_listed_once :
    let rules := Json.rules Json.Number.ofText?
    let comment : Expected := .ofLabels ["comment", "value"]
    let last : Expected := .ofLabels ["value", "separator"]
    let terminator : Grammar (fun _ : Unit => Json) Unit := .orElse .eof (.fail last)
    let g : Grammar (fun _ : Unit => Json) (List Json) :=
      .manyTill (.orElse (.rule ()) (.fail comment)) terminator
    let expected : Expected := ⟨["end of input", "value", "separator", "comment"]⟩
    let after : State := ⟨"[]?", 2, some 2⟩
    (comment.Made ∧ last.Made ∧
      (comment.merge last).alternatives = ["comment", "value", "separator"] ∧
      (comment.merge last).merge comment = comment.merge last) ∧
    ((∀ name, (rules name).WellLabelled) ∧ g.WellLabelled ∧
      g.Replies rules (.start "[]?") (.failure expected, after) ∧ expected.Made) ∧
    g.parse rules 4 "[]?" = some (.error ⟨expected, 2, some '?'⟩) ∧
      expected.alternatives.Nodup := by
  intro rules comment last terminator g expected after
  obtain ⟨band, _, merged, failures, _⟩ := labels_listed_once
  have made : comment.Made := Expected.made_ofLabels _
  have made' : last.Made := Expected.made_ofLabels _
  have labelled : g.WellLabelled := ⟨⟨trivial, made⟩, ⟨trivial, trivial⟩, made'⟩
  have replies : g.Replies rules (.start "[]?") (.failure expected, after) := ⟨4, by rfl⟩
  have ended : g.parse rules 4 "[]?" = some (.error ⟨expected, 2, some '?'⟩) := by rfl
  obtain ⟨made_of_replies, nodup_of_parse⟩ := failures Json.rules_wellLabelled labelled
  exact ⟨⟨made, made', (merged comment last made made').1, band.op_op_left made made'⟩,
    ⟨Json.rules_wellLabelled, labelled, replies, made_of_replies _ _ _ replies⟩, ended,
    nodup_of_parse _ _ _ ended⟩

end CommittedChoice
