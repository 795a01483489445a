import CommittedChoice.Parser.Rounds
import CommittedChoice.Proofs.Reading.Yields

/-! Steps that shorten the text before the cursor. A chain of them has no more steps than the text
has characters, so a loop over them comes to its last round. -/
namespace CommittedChoice

variable {α β : Type} {step : State → α → State → Prop} {state after : State}
  {front text : List Char} {values : List α}

def Shortens (step : State → α → State → Prop) : Prop :=
  ∀ ⦃state front text value after⦄, State.Splits state front text → step state value after →
    ∃ front left, after.Splits front left ∧ left.length < text.length

/-- A step for a loop with a terminator starts where that has failed, over the same text. -/
theorem Shortens.passes {run : State → Reply α → Prop} {terminator : State → Reply β → Prop}
    (shortens : Shortens (Succeeds run))
    (clean : ∀ ⦃state front text expected middle⦄, State.Splits state front text →
      terminator state (.failure expected, middle) → middle.cursor = state.cursor →
      middle.Splits front text) :
    Shortens (Passes run terminator) := by
  rintro state front text value after splits ⟨expected, middle, unended, stayed, round⟩
  exact shortens (clean splits unended stayed) round

namespace Chain

/-- Every step has taken a character of its own. -/
theorem length_le (chain : Chain step state values after) (shortens : Shortens step)
    (splits : state.Splits front text) :
    ∃ front left, after.Splits front left ∧ values.length + left.length ≤ text.length := by
  induction chain generalizing front text with
  | nil => exact ⟨front, text, splits, by simp⟩
  | cons first _ ih =>
    obtain ⟨_, between, splits', less⟩ := shortens splits first
    obtain ⟨_, left, splits'', fewer⟩ := ih splits'
    exact ⟨_, left, splits'', by rw [List.length_cons]; omega⟩

/-- Where a loop goes on or stops at every state, it comes to a state where it stops. -/
theorem exists_last {stops : State → Prop} {bound limit : Nat} (shortens : Shortens step)
    (each : ∀ ⦃state front text⦄, State.Splits state front text → text.length ≤ bound →
      (∃ value after, step state value after) ∨ stops state)
    (splits : state.Splits front text) (short : text.length ≤ bound)
    (enough : text.length < limit) :
    ∃ values last, Chain step state values last ∧ values.length < limit ∧ stops last := by
  induction limit generalizing state front text with
  | zero => exact absurd enough (Nat.not_lt_zero _)
  | succ limit ih =>
    rcases each splits short with ⟨value, after, round⟩ | stopped
    · obtain ⟨_, left, splits', less⟩ := shortens splits round
      obtain ⟨values, last, others, fewer, stopped⟩ := ih splits' (by omega) (by omega)
      exact ⟨value :: values, last, .cons round others, Nat.succ_lt_succ fewer, stopped⟩
    · exact ⟨[], state, .nil, Nat.succ_pos limit, stopped⟩

end Chain

namespace Parser

variable {p : Parser α}

theorem Yields.shortens (grows : p.Yields fun _ piece => piece ≠ []) :
    Shortens (Succeeds p.Runs) := by
  intro state front text value after splits run
  obtain ⟨piece, left, rfl, splits', some⟩ := grows splits run
  have positive := List.length_pos_iff.mpr some
  exact ⟨front ++ piece, left, splits', by rw [List.length_append]; omega⟩

end Parser

end CommittedChoice
