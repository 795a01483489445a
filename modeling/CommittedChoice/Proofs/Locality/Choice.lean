import CommittedChoice.Proofs.Locality.Basic

/-! Choice and the operations that give input back are local. Each compares or restores the cursor
it started from, and of a trip it sees only whether that has taken anything. -/
namespace CommittedChoice.Parser.Local

variable {α β : Type} {n : Nat} {p q : Parser α} {text : List Char} {trip : Trip}

theorem orElse (first : p.Local) (second : q.Local) : (p.orElse q).Local := by
  intro text
  apply (first text).step
  rintro (expected | value) trip ends
  · by_cases clean : trip.taken = []
    · simp only [State.follow_cursor_eq, clean, if_true]
      apply (LocalAt.after ends.within (second trip.left)).step
      rintro (expected' | value) further ends'
      · by_cases clean' : further.taken = []
        · simp only [State.follow_cursor_eq, clean', if_true]
          exact .ended ends'.within
        · simp only [State.follow_cursor_eq, clean', if_false]
          exact .ended ends'.within
      · exact .ended ends'.within
    · simp only [State.follow_cursor_eq, clean, if_false]
      exact .ended ends.within
  · exact .ended ends.within

/-- The alternatives that have failed so far have taken nothing. -/
theorem choiceFrom {parsers : List (Parser α)} (each : ∀ parser ∈ parsers, parser.Local)
    (within : trip.Within text) (expected : Expected) :
    LocalAt (fun state => choiceFrom state.cursor parsers expected (state.follow trip)) text
      trip.reach := by
  induction parsers generalizing trip expected with
  | nil => exact .ended within
  | cons parser parsers ih =>
    have head : parser.Local := each parser (by simp)
    have others : ∀ other ∈ parsers, other.Local := fun other member => each other (by simp [member])
    apply (LocalAt.after within (head trip.left)).step
    rintro (expected' | value) further ends
    · by_cases clean : further.taken = []
      · simp only [State.follow_cursor_eq, clean, if_true]
        exact ih others ends.within (expected.merge expected')
      · simp only [State.follow_cursor_eq, clean, if_false]
        exact .ended ends.within
    · exact .ended ends.within

theorem choice {parsers : List (Parser α)} (each : ∀ parser ∈ parsers, parser.Local) :
    (choice parsers).Local := by
  intro text
  refine (choiceFrom each (Trip.within_still text) .nothing).congr fun _ => ?_
  rw [State.follow_still]
  rfl

theorem attempt (first : p.Local) : p.attempt.Local := by
  intro text
  apply (first text).step
  rintro (expected | value) trip ends
  · exact .ended ends.within.back
  · exact .ended ends.within

theorem lookAhead (first : p.Local) : p.lookAhead.Local := by
  intro text
  apply (first text).step
  rintro (expected | value) trip ends
  · exact .ended ends.within
  · exact .ended ends.within.back

theorem notFollowedBy (first : p.Local) : p.notFollowedBy.Local := by
  intro text
  apply (first text).step
  rintro (expected | value) trip ends
  · exact .ended ends.within.back
  · exact .ended ends.within.back

/-- Whether a failure is answered as it is or in another way hangs on the trip alone. -/
theorem clean_or {clean consuming : Outcome Expected β} (within : trip.Within text) :
    LocalAt (fun state => if (state.follow trip).cursor = state.cursor
      then some (clean, state.follow trip) else some (consuming, state.follow trip)) text
      trip.reach := by
  by_cases stayed : trip.taken = []
  · simp only [State.follow_cursor_eq, stayed, if_true]
    exact .ended within
  · simp only [State.follow_cursor_eq, stayed, if_false]
    exact .ended within

theorem label (name : String) (first : p.Local) : (p.label name).Local := by
  intro text
  apply (first text).step
  rintro (expected | value) trip ends
  · exact clean_or ends.within
  · exact .ended ends.within

theorem option (default : α) (first : p.Local) : (p.option default).Local := by
  intro text
  apply (first text).step
  rintro (expected | value) trip ends
  · exact clean_or ends.within
  · exact .ended ends.within

theorem optional (first : p.Local) : p.optional.Local := by
  intro text
  apply (first text).step
  rintro (expected | value) trip ends
  · exact clean_or ends.within
  · exact .ended ends.within

end CommittedChoice.Parser.Local
