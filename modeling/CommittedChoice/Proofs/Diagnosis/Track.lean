import CommittedChoice.Proofs.Diagnosis.Events
import CommittedChoice.Proofs.Locality.Loops

/-! Between two events of its log a run moves the cursor and nothing else. So the log tells the
marker: it is where it was, or at the deepest character consumed since. -/
namespace CommittedChoice

/-- The state an act leaves. -/
def Event.next (event : Event) : State :=
  match event.act with
  | .consume => event.state.advance
  | .refuse _ => event.state

/-- The deeper of a marker and an offset is one of them. -/
theorem State.deepest_eq (furthest : Option Nat) (offset : Nat) :
    deepest furthest offset = offset ∨ furthest = some (deepest furthest offset) := by
  cases furthest with
  | none => exact .inl rfl
  | some mark =>
    rcases Nat.le_total mark offset with near | far
    · exact .inl (Nat.max_eq_right near)
    · exact .inr (congrArg some (Nat.max_eq_left far).symm)

inductive Track : State → List Event → State → Prop where
  | rewind (state : State) (cursor : Nat) : Track state [] (state.rewind cursor)
  | step {state after : State} {cursor : Nat} {event : Event} {events : List Event}
      (here : event.state = state.rewind cursor) (others : Track event.next events after) :
      Track state (event :: events) after

namespace Track

variable {state middle after : State} {event : Event} {events more : List Event} {mark : Nat}

theorem still (state : State) : Track state [] state := .rewind state state.cursor

theorem single {act : Act} (state : State) :
    Track state [⟨state, act⟩] (Event.next ⟨state, act⟩) := by
  have here : state = state.rewind state.cursor := rfl
  exact .step here (still _)

theorem append (first : Track state events middle) (second : Track middle more after) :
    Track state (events ++ more) after := by
  induction first with
  | rewind state cursor =>
    cases second with
    | rewind _ cursor => exact .rewind state cursor
    | step here others => exact .step here others
  | step here _ ih => exact .step here (ih second)

theorem rewound (first : Track state events after) (cursor : Nat) :
    Track state events (after.rewind cursor) := by
  simpa using first.append (.rewind after cursor)

theorem source (track : Track state events after) : after.source = state.source := by
  induction track with
  | rewind => rfl
  | @step state after cursor event _ here _ ih =>
    rw [ih, Event.next]
    cases event.act <;> simp [State.advance, State.rewind, here]

theorem mem_source (track : Track state events after) (member : event ∈ events) :
    event.state.source = state.source := by
  induction track with
  | rewind => cases member
  | @step state after cursor first events here others ih =>
    have source : first.state.source = state.source := by rw [here, State.rewind]
    rcases List.mem_cons.mp member with rfl | later
    · exact source
    · rw [ih later, ← source, Event.next]
      cases first.act <;> rfl

theorem next_furthest (event : Event) {cursor : Nat} (here : event.state = state.rewind cursor) :
    ∀ mark ∈ state.furthest, ∃ later ∈ event.next.furthest, mark ≤ later := by
  intro mark member
  have marked : event.state.furthest = some mark := by rw [here]; exact member
  unfold Event.next
  cases event.act with
  | consume => exact ⟨_, rfl, by rw [marked]; exact Nat.le_max_left _ _⟩
  | refuse _ => exact ⟨mark, marked, Nat.le_refl _⟩

theorem furthest (track : Track state events after) :
    ∀ mark ∈ state.furthest, ∃ later ∈ after.furthest, mark ≤ later := by
  induction track with
  | rewind => exact fun mark member => ⟨mark, member, Nat.le_refl _⟩
  | @step _ _ _ event _ here _ ih =>
    intro mark member
    obtain ⟨next, known, far⟩ := next_furthest event here mark member
    obtain ⟨later, known, further⟩ := ih next known
    exact ⟨later, known, Nat.le_trans far further⟩

/-- The marker stays at least as far as every event has left it. -/
theorem mem_furthest (track : Track state events after) (member : event ∈ events) :
    ∀ mark ∈ event.next.furthest, ∃ later ∈ after.furthest, mark ≤ later := by
  induction track with
  | rewind => cases member
  | step _ others ih =>
    rcases List.mem_cons.mp member with rfl | later
    · exact others.furthest
    · exact ih later

/-- The marker has been moved by a consumption to where it is. -/
theorem mem_of_furthest (track : Track state events after) (marked : mark ∈ after.furthest) :
    mark ∈ state.furthest ∨ ∃ event ∈ events, event.act = .consume ∧ event.state.cursor = mark := by
  induction track with
  | rewind => exact .inl marked
  | @step state _ _ event _ here _ ih =>
    have same : event.state.furthest = state.furthest := by rw [here, State.rewind]
    rcases ih marked with early | ⟨later, member, known⟩
    · rw [← same]
      unfold Event.next at early
      cases act : event.act with
      | refuse _ =>
        rw [act] at early
        exact .inl early
      | consume =>
        rw [act] at early
        obtain rfl : State.deepest event.state.furthest event.state.cursor = mark :=
          Option.some.inj early
        rcases State.deepest_eq event.state.furthest event.state.cursor with new | old
        · exact .inr ⟨event, List.mem_cons_self, act, new.symm⟩
        · exact .inl old
    · exact .inr ⟨later, List.mem_cons_of_mem _ member, known⟩

end Track

end CommittedChoice
