import CommittedChoice.Proofs.Locality.Grammar
import CommittedChoice.Proofs.Reachable.Visits

/-! What holds of every state that runs lead to. Cursor and marker stand between characters, and
the marker is never behind the last character before the cursor, so that every slice and every
rewind on the way finds a boundary. -/
namespace CommittedChoice

theorem Text.le_of_isBoundary {text : String} {offset : Nat}
    (place : isBoundary text offset) : offset ≤ text.utf8ByteSize := by
  obtain ⟨front, back, split, rfl⟩ := isBoundary_iff.mp place
  rw [← size_toList, split, size_append]
  exact Nat.le_add_right _ _

namespace State

structure Sound (input : String) (state : State) : Prop where
  source : state.source = input
  cursor_le : state.cursor ≤ input.utf8ByteSize
  cursor : Text.isBoundary input state.cursor
  furthest_le : ∀ marker ∈ state.furthest, marker ≤ input.utf8ByteSize
  furthest : ∀ marker ∈ state.furthest, Text.isBoundary input marker
  /-- Away from the start there is a marker, no earlier than the character before the cursor. -/
  trail : state.cursor = 0 ∨ ∃ before char after, input.toList = before ++ char :: after ∧
    state.cursor = Text.size before + char.utf8Size ∧
    ∃ marker ∈ state.furthest, Text.size before ≤ marker

variable {input : String} {state : State} {trip : Trip} {front text : List Char}

theorem sound_start (input : String) : (start input).Sound input where
  source := rfl
  cursor_le := Nat.zero_le _
  cursor := Text.isBoundary_iff.mpr ⟨[], input.toList, rfl, rfl⟩
  furthest_le _ member := nomatch member
  furthest _ member := nomatch member
  trail := .inl rfl

theorem Sound.splits (sound : state.Sound input) : ∃ front text, state.Splits front text := by
  obtain ⟨front, text, split, size⟩ := Text.isBoundary_iff.mp sound.cursor
  exact ⟨front, text, by rw [sound.source, split], size.symm⟩

theorem Sound.follow_furthest (sound : state.Sound input) (splits : state.Splits front text)
    (within : trip.Within text) :
    ∀ marker ∈ (state.follow trip).furthest, Text.isBoundary input marker := by
  intro marker member
  rcases mem_max member with old | new
  · exact sound.furthest marker old
  · obtain ⟨distance, reached, rfl⟩ := Option.map_eq_some_iff.mp new
    obtain ⟨before, after, split, rfl⟩ := within.reach distance reached
    refine Text.isBoundary_iff.mpr ⟨front ++ before, after, ?_, ?_⟩
    · rw [← sound.source, splits.source, split, List.append_assoc]
    · rw [splits.cursor, Text.size_append]

/-- A trip that takes nothing keeps the character before the cursor; any other one has passed the
character that is there now. -/
theorem Sound.follow_trail (sound : state.Sound input) (splits : state.Splits front text)
    (within : trip.Within text) :
    (state.follow trip).cursor = 0 ∨ ∃ before char after, input.toList = before ++ char :: after ∧
      (state.follow trip).cursor = Text.size before + char.utf8Size ∧
      ∃ marker ∈ (state.follow trip).furthest, Text.size before ≤ marker := by
  by_cases clean : trip.taken = []
  · have cursor : (state.follow trip).cursor = state.cursor := by simp [clean]
    rw [cursor]
    obtain zero | ⟨before, char, after, split, place, deep⟩ := sound.trail
    · exact .inl zero
    · exact .inr ⟨before, char, after, split, place, exists_le_max (.inl deep)⟩
  · right
    obtain ⟨early, last, taken⟩ : ∃ early last, trip.taken = early ++ [last] :=
      ⟨_, _, (List.dropLast_concat_getLast clean).symm⟩
    obtain ⟨distance, reached, far⟩ := within.trail clean
    simp only [taken, List.dropLast_concat] at far
    refine ⟨front ++ early, last, trip.left, ?_, ?_, exists_le_max (.inr ?_)⟩
    · rw [← sound.source, splits.source, within.split, taken]
      simp
    · simp only [State.follow, splits.cursor, taken, Text.size_append, Text.size_cons,
        Text.size_nil]
      omega
    · refine ⟨state.cursor + distance, by simpa using reached, ?_⟩
      rw [splits.cursor, Text.size_append]
      omega

theorem Sound.follow (sound : state.Sound input) (splits : state.Splits front text)
    (within : trip.Within text) : (state.follow trip).Sound input := by
  have after := splits.follow within
  have cursor : Text.isBoundary input (state.follow trip).cursor :=
    Text.isBoundary_iff.mpr ⟨_, _, by rw [← after.source]; exact congrArg _ sound.source.symm,
      after.cursor.symm⟩
  have furthest := sound.follow_furthest splits within
  exact {
    source := sound.source
    cursor_le := Text.le_of_isBoundary cursor
    cursor
    furthest_le := fun marker member => Text.le_of_isBoundary (furthest marker member)
    furthest
    trail := sound.follow_trail splits within }

theorem follow_advances (state : State) (trip : Trip) :
    state.cursor ≤ (state.follow trip).cursor ∧
      ∀ marker ∈ state.furthest, ∃ later ∈ (state.follow trip).furthest, marker ≤ later :=
  ⟨Nat.le_add_right _ _, fun marker member => exists_le_max (.inl ⟨marker, member, Nat.le_refl _⟩)⟩

end State

variable {ι : Type} {τ : ι → Type} {α : Type} {rules : Rules τ} {g : Grammar τ α}
  {input : String} {state : State} {reply : Reply α}

theorem Grammar.Replies.sound (replies : g.Replies rules state reply)
    (sound : state.Sound input) : reply.2.Sound input := by
  obtain ⟨front, text, splits⟩ := sound.splits
  obtain ⟨trip, within, after, _⟩ := replies.ends splits
  rw [after]
  exact sound.follow splits within

theorem Reachable.sound (reached : Reachable input state) : state.Sound input := by
  induction reached with
  | start => exact State.sound_start input
  | step _ replies ih => exact replies.sound ih

/-- The text from a boundary on can be cut off. -/
theorem Text.drop?_isSome {text : String} {offset : Nat} (place : isBoundary text offset) :
    (drop? text offset).isSome := by
  obtain ⟨front, back, split, rfl⟩ := isBoundary_iff.mp place
  have whole : text.utf8ByteSize = size front + size back := by
    rw [← size_toList, split, size_append]
  rw [drop?, whole, slice?_eq_some (by rw [split, List.append_nil])]
  rfl

theorem Grammar.Replies.between? (replies : g.Replies rules state reply)
    (sound : state.Sound input) : (state.between? reply.2).isSome := by
  obtain ⟨front, text, splits⟩ := sound.splits
  obtain ⟨trip, within, after, _⟩ := replies.ends splits
  rw [after, State.Splits.between? (within.split ▸ splits) (splits.follow within)]
  rfl

/-- The offset a diagnostic points at is the marker, or the cursor without one. -/
theorem State.Sound.diagnosed (sound : state.Sound input) :
    (Text.drop? state.source (state.furthest.getD state.cursor)).isSome := by
  rw [sound.source]
  apply Text.drop?_isSome
  cases marked : state.furthest with
  | none => exact sound.cursor
  | some marker => exact sound.furthest marker marked

/-- A run from the state has only moved forward, and whoever started it may rewind to the state,
slice from there to where the run has come, and diagnose its failure. -/
structure Grammar.Proper (input : String) (state : State) (reply : Reply α) : Prop where
  sound : reply.2.Sound input
  forward : state.cursor ≤ reply.2.cursor
  marked : ∀ marker ∈ state.furthest, ∃ later ∈ reply.2.furthest, marker ≤ later
  rewound : Text.isBoundary reply.2.source state.cursor
  sliced : (state.between? reply.2).isSome
  diagnosed : (Text.drop? reply.2.source (reply.2.furthest.getD reply.2.cursor)).isSome

theorem Grammar.Replies.proper (replies : g.Replies rules state reply)
    (sound : state.Sound input) : Proper input state reply := by
  obtain ⟨front, text, splits⟩ := sound.splits
  obtain ⟨trip, within, after, _⟩ := replies.ends splits
  have later := replies.sound sound
  have advances := state.follow_advances trip
  rw [← after] at advances
  exact {
    sound := later
    forward := advances.1
    marked := advances.2
    rewound := by rw [later.source]; exact sound.cursor
    sliced := replies.between? sound
    diagnosed := later.diagnosed }

/-- Every state that runs lead to is sound, and so is every state they enter on the way; there the
text from the cursor on can be read, and every run that ends has moved forward to a sound state
without a slice or a rewind off a boundary. -/
theorem reachable_sound_and_proper (reached : Reachable input state) :
    state.Sound input ∧
      ∀ {ι : Type} {τ : ι → Type} {α β : Type} (rules : Rules τ) (g : Grammar τ α)
        (h : Grammar τ β) (inner : State), g.Visits rules state h inner →
        inner.Sound input ∧ inner.rest?.isSome ∧
          ∀ reply, h.Replies rules inner reply → Grammar.Proper input inner reply := by
  refine ⟨reached.sound, ?_⟩
  intro ι τ α β rules g h inner visits
  have sound : inner.Sound input := (visits.reachable reached).sound
  have readable : inner.rest?.isSome := by
    rw [State.rest?, sound.source]
    exact Text.drop?_isSome sound.cursor
  exact ⟨sound, readable, fun reply replies => replies.proper sound⟩

/-- The start of a failed literal is given back and still marked; the next run takes it. -/
theorem rewound_sound_and_proper :
    Reachable "é1" ⟨"é1", 2, some 2⟩ ∧ State.Sound "é1" ⟨"é1", 2, some 2⟩ ∧
      Grammar.Proper "é1" ⟨"é1", 2, some 2⟩
        ((.success "1", ⟨"é1", 3, some 2⟩) : Reply String) := by
  let g : Grammar (fun _ : Empty => Unit) String :=
    .seqRight (.literal "é") (.attempt (.literal "12"))
  have run : g.Replies .empty (.start "é1")
      (.failure (.literal "12"), ⟨"é1", 2, some 2⟩) := ⟨0, by decide⟩
  have reached : Reachable "é1" ⟨"é1", 2, some 2⟩ := .step .start run
  let digit : Grammar (fun _ : Empty => Unit) String := .literal "1"
  have visits : (Grammar.recognize digit).Visits .empty ⟨"é1", 2, some 2⟩ digit
      ⟨"é1", 2, some 2⟩ := .inside .recognize .here
  have replies : digit.Replies .empty ⟨"é1", 2, some 2⟩
      (.success "1", ⟨"é1", 3, some 2⟩) := ⟨0, by decide⟩
  have known := reachable_sound_and_proper reached
  exact ⟨reached, known.1, (known.2 .empty _ digit _ visits).2.2 _ replies⟩

end CommittedChoice
