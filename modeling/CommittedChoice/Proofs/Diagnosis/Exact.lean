import CommittedChoice.Proofs.Diagnosis.Guarded
import CommittedChoice.Proofs.Diagnosis.Logs
import CommittedChoice.Proofs.Reachable.Invariant

/-! A diagnostic points at the deepest character consumed anywhere in the run, and names it. The log
tells the marker, since nothing but a consumption moves it; and without a marker the cursor is still
at the start, where it is pointed at instead. -/
namespace CommittedChoice

/-- The offsets at which something was consumed. -/
def consumed (events : List Event) : List Nat :=
  (events.filter fun event => event.act = .consume).map fun event => event.state.cursor

theorem mem_consumed {events : List Event} {offset : Nat} :
    offset ∈ consumed events ↔
      ∃ event ∈ events, event.act = .consume ∧ event.state.cursor = offset := by
  simp [consumed, and_assoc]

theorem Event.marked {event : Event} (act : event.act = .consume) :
    ∃ marker ∈ event.next.furthest, event.state.cursor ≤ marker := by
  simp only [Event.next, act, State.advance, Option.mem_some, exists_eq_left']
  cases event.state.furthest with
  | none => exact Nat.le_refl _
  | some marker => exact Nat.le_max_right _ _

theorem Track.furthest_eq {state after : State} {events : List Event}
    (track : Track state events after) (unmarked : state.furthest = none) :
    after.furthest = (consumed events).max? := by
  have behind : ∀ offset ∈ consumed events, ∃ later ∈ after.furthest, offset ≤ later := by
    intro offset member
    obtain ⟨event, listed, act, rfl⟩ := mem_consumed.mp member
    obtain ⟨marker, known, far⟩ := Event.marked act
    obtain ⟨later, final, further⟩ := track.mem_furthest listed marker known
    exact ⟨later, final, Nat.le_trans far further⟩
  cases marked : after.furthest with
  | none =>
    rw [marked] at behind
    have empty : consumed events = [] := by
      refine List.eq_nil_iff_forall_not_mem.mpr fun offset member => ?_
      obtain ⟨_, absent, _⟩ := behind offset member
      cases absent
    rw [empty, List.max?_nil]
  | some marker =>
    rw [marked] at behind
    refine (List.max?_eq_some_iff.mpr ⟨?_, fun offset member => ?_⟩).symm
    · rcases track.mem_of_furthest marked with early | known
      · rw [unmarked] at early
        cases early
      · exact mem_consumed.mpr known
    · obtain ⟨later, known, far⟩ := behind offset member
      obtain rfl := Option.some.inj known
      exact far

variable {ι : Type} {τ : ι → Type} {α : Type} {rules : Rules τ} {g : Grammar τ α} {fuel : Nat}
  {input : String} {failure : Failure}

/-- The diagnostic that a state calls for points there. -/
theorem Track.offset_eq {events : List Event} {after : State}
    (track : Track (.start input) events after) (sound : after.Sound input)
    (expected : Expected) : (Failure.ofState expected after).offset = (consumed events).max?.getD 0 := by
  rw [← track.furthest_eq rfl]
  show after.furthest.getD after.cursor = after.furthest.getD 0
  cases marked : after.furthest with
  | some marker => rfl
  | none =>
    rcases sound.trail with zero | ⟨_, _, _, _, _, marker, member, _⟩
    · exact zero
    · rw [marked] at member
      cases member

theorem State.Sound.isBoundary_deepest {state : State} (sound : state.Sound input) :
    Text.isBoundary input (state.furthest.getD state.cursor) := by
  cases marked : state.furthest with
  | none => exact sound.cursor
  | some marker => exact sound.furthest marker marked

/-- Where only characters are consumed, none is missing at the deepest offset. -/
theorem Track.eq_empty_of_unread {log : Log} {after : State} {offset : Nat}
    (track : Track (.start input) (log (.start input)) after) (grounded : log.Grounded)
    (deepest : offset = (consumed (log (.start input))).max?.getD 0)
    (last : offset = input.utf8ByteSize) (unread : Text.charAt? input offset = none) :
    input = "" := by
  cases found : (consumed (log (.start input))).max? with
  | none =>
    rw [found, last] at deepest
    exact String.utf8ByteSize_eq_zero_iff.mp deepest
  | some marker =>
    obtain rfl : offset = marker := by rw [deepest, found]; rfl
    obtain ⟨event, listed, act, place⟩ := mem_consumed.mp (List.max?_eq_some_iff.mp found).1
    have read := grounded listed act
    rw [State.peek, track.mem_source listed, place] at read
    simp only [State.start, unread] at read
    cases read

theorem Grammar.parse_error (failed : g.parse rules fuel input = some (.error failure)) :
    ∃ after, g.run rules fuel (.start input) = some (.failure failure.expected, after) ∧
      failure = .ofState failure.expected after := by
  obtain ⟨⟨_ | value, after⟩, run, same⟩ := Option.map_eq_some_iff.mp failed
  · cases same
    exact ⟨after, run, rfl⟩
  · cases same

/-- A diagnostic tells the character at its offset. -/
theorem Grammar.found_eq (failed : g.parse rules fuel input = some (.error failure)) :
    failure.found = Text.charAt? input failure.offset := by
  obtain ⟨after, run, same⟩ := parse_error failed
  have source : after.source = input := (g.run_tracked rules fuel run).source
  rw [same, ← source]
  rfl

theorem Failure.token_eq_end {failure : Failure} :
    failure.token = "end of input" ↔ failure.found = none := by
  unfold token
  cases failure.found with
  | none => simp
  | some char =>
    simp only [reduceCtorEq, iff_false]
    intro same
    have heads := congrArg (fun text => text.toList.head?) same
    simp at heads

theorem Failure.message_eq (failure : Failure) :
    failure.message = "unexpected " ++ failure.token ++
      (if failure.expected.alternatives = [] then ""
        else ", expecting " ++ String.intercalate " or " failure.expected.alternatives) := by
  unfold message Expected.isEmpty
  by_cases none : failure.expected.alternatives = []
  · simp [none]
  · simp [none, Expected.text, String.append_assoc]

/-- The offset of a diagnostic is the largest one at which anything was consumed in the run, or 0,
and the source is split there: the diagnostic is about the first character of the part behind, its
width and its text, or about the end of the source when there is none. When no consumption stands by
itself, it is about the end of the source just when the source is empty. -/
theorem Grammar.parse_diagnosed (failed : g.parse rules fuel input = some (.error failure)) :
    failure.offset = (consumed (g.log rules fuel (.start input))).max?.getD 0 ∧
    ∃ front back, input.toList = front ++ back ∧ Text.size front = failure.offset ∧
      failure.offset ≤ input.utf8ByteSize ∧
      (back = [] ↔ failure.offset = input.utf8ByteSize) ∧
      failure.length = (back.head?.map Char.utf8Size).getD 0 ∧
      (failure.length = 0 ↔ failure.offset = input.utf8ByteSize) ∧
      failure.message = "unexpected " ++
        (match back with | [] => "end of input" | char :: _ => "\"" ++ char.toString ++ "\"") ++
        (if failure.expected.alternatives = [] then ""
          else ", expecting " ++ String.intercalate " or " failure.expected.alternatives) ∧
      (g.Guarded → (∀ name, (rules name).Guarded) →
        (failure.token = "end of input" ↔ input = "")) := by
  obtain ⟨after, run, same⟩ := parse_error failed
  have track := g.run_tracked rules fuel run
  have replies : g.Replies rules (.start input) _ := ⟨fuel, run⟩
  have sound : after.Sound input := replies.sound (State.sound_start input)
  have offset := track.offset_eq sound failure.expected
  rw [← same] at offset
  refine ⟨offset, ?_⟩
  have place : Text.isBoundary input failure.offset := by
    rw [same]
    exact sound.isBoundary_deepest
  obtain ⟨front, back, split, size⟩ := Text.isBoundary_iff.mp place
  have found : failure.found = back.head? := by
    rw [← Text.charAt?_eq_head? split, size, ← sound.source]
    rw [same]
    rfl
  have whole : input.utf8ByteSize = Text.size front + Text.size back := by
    rw [← Text.size_toList, split, Text.size_append]
  have ended : back = [] ↔ failure.offset = input.utf8ByteSize := by
    rw [← Text.size_eq_zero, ← size, whole]
    omega
  refine ⟨front, back, split, size, Text.le_of_isBoundary place, ended, ?_, ?_, ?_, ?_⟩
  · rw [Failure.length, found]
  · rw [← ended, Failure.length, found]
    cases back with
    | nil => simp
    | cons char chars =>
      have := char.utf8Size_pos
      simp
      omega
  · rw [failure.message_eq, Failure.token, found]
    cases back <;> rfl
  · intro guarded each
    rw [Failure.token_eq_end, found, List.head?_eq_none_iff]
    constructor
    · rintro rfl
      have unread : Text.charAt? input failure.offset = none := by
        rw [← size, Text.charAt?_eq_head? split, List.head?_nil]
      exact track.eq_empty_of_unread (log_grounded guarded each fuel) offset (ended.mp rfl) unread
    · rintro rfl
      exact (List.append_eq_nil_iff.mp split.symm).2

/-- The character two bytes long is given back by the attempt and pointed at all the same. -/
theorem Grammar.given_back_diagnosed :
    let g : Grammar (fun _ : Empty => Unit) String :=
      .seqRight (.literal "a") (.orElse (.attempt (.literal "éb")) (.literal "x"))
    let failure : Failure := ⟨⟨["\"éb\"", "\"x\""]⟩, 1, some 'é'⟩
    g.parse .empty 0 "aéc" = some (.error failure) ∧
      g.log .empty 0 (.start "aéc") =
        [⟨⟨"aéc", 0, none⟩, .consume⟩, ⟨⟨"aéc", 1, some 0⟩, .consume⟩] ∧
      failure.offset = (consumed (g.log .empty 0 (.start "aéc"))).max?.getD 0 ∧
      failure.message = "unexpected \"é\", expecting \"éb\" or \"x\"" ∧
      (failure.token = "end of input" ↔ "aéc" = "") := by
  intro g failure
  have failed : g.parse .empty 0 "aéc" = some (.error failure) := by rfl
  have guarded : g.Guarded :=
    .seqRight (.literal "a") (.orElse (.attempt (.literal "éb")) (.literal "x"))
  obtain ⟨offset, front, back, _, _, _, _, _, _, _, ended⟩ := Grammar.parse_diagnosed failed
  exact ⟨failed, by decide, offset, by decide, ended guarded fun name => nomatch name⟩

end CommittedChoice
