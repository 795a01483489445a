import CommittedChoice.Proofs.Csv.Termination
import CommittedChoice.Proofs.Json.Termination

/-! The grammars of JSON texts and of tables come to an end on every text, well-formed or not. -/
namespace CommittedChoice

variable {convert : String → Option Json.Number} {input : String} {state : State}

/-- Values, whole JSON texts and tables with any separator end with a reply from every state that
runs lead to. A value inside a value is entered at a larger cursor than the value around it, and the
loops read something in every round. How numbers are converted makes no difference. -/
theorem formats_terminate (reached : Reachable input state) :
    (Json.valueText convert (.rule ())).Terminates (Json.rules convert) state ∧
      (Json.document (.rule ())).Terminates (Json.rules convert) state ∧
      ∀ separator, (Csv.table separator).Terminates .empty state := by
  have nested : (Grammar.rule () : Grammar (fun _ : Unit => Json) Json).Founded
      (Json.rules convert) (fun _ => True) True := ⟨trivial, trivial⟩
  have tables (separator : Char) : (Csv.table separator).Founded .empty (fun _ => True) False :=
    Csv.founded_table
  exact ⟨(Json.founded_value nested).terminates Json.rules_founded reached,
    (Json.founded_document nested).terminates Json.rules_founded reached,
    fun separator => (tables separator).terminates (fun name => nomatch name) reached⟩

/-- The inner array starts at the third character, and neither array is closed. For a table with
quotes as separators the rest is a row of two cells. -/
theorem broken_arrays_terminate :
    let rules := Json.rules Json.Number.ofText?
    let value := Json.valueText Json.Number.ofText? (.rule ())
    let state : State := ⟨"x[[1\"", 1, some 0⟩
    let first : State := ⟨"x[[1\"", 2, some 1⟩
    let second : State := ⟨"x[[1\"", 3, some 2⟩
    Reachable "x[[1\"" state ∧
      value.Visits rules state (.rule ()) first ∧
      (rules ()).Visits rules first (.rule ()) second ∧
      first.cursor < second.cursor ∧
      (∃ reply, value.Replies rules state reply) ∧
      (∃ reply, (Json.document (.rule ())).Replies rules state reply) ∧
      ∃ reply, (Csv.table '"').Replies .empty state reply := by
  intro rules value state first second
  have letter : (Grammar.anyChar : Grammar (fun _ : Empty => Unit) Char).Replies .empty
      (.start "x[[1\"") (.success 'x', state) := ⟨0, by decide⟩
  have reached : Reachable "x[[1\"" state := .step .start letter
  have outer : value.Visits rules state (.rule ()) first :=
    Json.visits_element (by decide) ⟨1, by decide⟩
  have inner : (rules ()).Visits rules first (.rule ()) second :=
    Json.visits_element (by decide) ⟨1, by decide⟩
  obtain ⟨values, documents, tables⟩ := formats_terminate reached
  exact ⟨reached, outer, inner, values.nested outer inner, values.replies, documents.replies,
    (tables '"').replies⟩

end CommittedChoice
