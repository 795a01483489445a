import CommittedChoice.State

/-! What a run does to a state, told by the text after the cursor alone. A trip takes a part of
that text, leaves the rest, and knows how far from its start the deepest character it consumed
was; a rewound trip takes nothing and still knows. -/
namespace CommittedChoice

structure Trip where
  taken : List Char
  left : List Char
  /-- The distance in bytes from the start to the deepest character consumed, if there was one. -/
  reach : Option Nat

/-- The later of two marks is at least as far as either of them. -/
theorem exists_le_max {bound : Nat} {first second : Option Nat}
    (either : (∃ mark ∈ first, bound ≤ mark) ∨ ∃ mark ∈ second, bound ≤ mark) :
    ∃ mark ∈ max first second, bound ≤ mark := by
  rcases either with ⟨mark, rfl, far⟩ | ⟨mark, rfl, far⟩
  · cases second with
    | none => exact ⟨mark, rfl, far⟩
    | some other => exact ⟨max mark other, rfl, Nat.le_trans far (Nat.le_max_left _ _)⟩
  · cases first with
    | none => exact ⟨mark, rfl, far⟩
    | some other => exact ⟨max other mark, rfl, Nat.le_trans far (Nat.le_max_right _ _)⟩

theorem mem_max {mark : Nat} {first second : Option Nat} (member : mark ∈ max first second) :
    mark ∈ first ∨ mark ∈ second := by
  cases first with
  | none =>
    cases second with
    | none => exact .inl member
    | some last => exact .inr member
  | some near =>
    cases second with
    | none => exact .inl member
    | some far =>
      have same : max near far = mark := Option.some.inj member
      rcases Nat.le_total near far with ordered | ordered
      · exact .inr (congrArg some ((Nat.max_eq_right ordered).symm.trans same))
      · exact .inl (congrArg some ((Nat.max_eq_left ordered).symm.trans same))

namespace Trip

def still (text : List Char) : Trip := ⟨[], text, none⟩

def andThen (first second : Trip) : Trip where
  taken := first.taken ++ second.taken
  left := second.left
  reach := max first.reach (second.reach.map (Text.size first.taken + ·))

/-- The trip with its cursor given back. -/
def back (trip : Trip) : Trip := ⟨[], trip.taken ++ trip.left, trip.reach⟩

/-- The trip is one over this text: it reaches no further than to its end, and at least as far as
to the last character it has taken. -/
structure Within (trip : Trip) (text : List Char) : Prop where
  split : text = trip.taken ++ trip.left
  reach : ∀ distance ∈ trip.reach,
    ∃ front back, text = front ++ back ∧ Text.size front = distance
  trail : trip.taken ≠ [] → ∃ distance ∈ trip.reach, Text.size trip.taken.dropLast ≤ distance

variable {first second trip : Trip} {text : List Char}

theorem within_still (text : List Char) : (still text).Within text :=
  ⟨rfl, by simp [still], fun moved => absurd rfl moved⟩

namespace Within

theorem back (within : trip.Within text) : trip.back.Within text :=
  ⟨within.split, within.reach, fun moved => absurd rfl moved⟩

@[simp] theorem back_left (within : trip.Within text) : trip.back.left = text := within.split.symm

/-- A trip that has taken nothing leaves the text it began with. -/
theorem left_eq (within : trip.Within text) (clean : trip.taken = []) : trip.left = text := by
  rw [within.split, clean, List.nil_append]

/-- A trip that has consumed nothing has taken nothing. -/
theorem taken_eq_nil (within : trip.Within text) (unmoved : trip.reach = none) :
    trip.taken = [] := by
  apply Decidable.byContradiction
  intro moved
  obtain ⟨distance, member, _⟩ := within.trail moved
  rw [unmoved] at member
  cases member

theorem andThen (before : first.Within text) (after : second.Within first.left) :
    (first.andThen second).Within text := by
  constructor
  · rw [before.split, after.split]
    simp only [Trip.andThen, List.append_assoc]
  · intro distance member
    rcases mem_max member with early | late
    · exact before.reach distance early
    · obtain ⟨further, known, rfl⟩ := Option.map_eq_some_iff.mp late
      obtain ⟨front, back, split, rfl⟩ := after.reach further known
      refine ⟨first.taken ++ front, back, ?_, Text.size_append _ _⟩
      rw [before.split, split, List.append_assoc]
  · intro moved
    apply exists_le_max
    by_cases clean : second.taken = []
    · have moved' : first.taken ≠ [] := by simpa [Trip.andThen, clean] using moved
      exact .inl (by simpa [Trip.andThen, clean] using before.trail moved')
    · obtain ⟨distance, member, far⟩ := after.trail clean
      refine .inr ⟨Text.size first.taken + distance, by simpa using member, ?_⟩
      simp only [Trip.andThen, List.dropLast_append_of_ne_nil clean, Text.size_append]
      omega

end Within

/-- The trip has gone at least as far as a mark, when there is one. -/
def Past (trip : Trip) (mark : Option Nat) : Prop :=
  ∀ distance ∈ mark, ∃ further ∈ trip.reach, distance ≤ further

theorem past_none (trip : Trip) : trip.Past none := by
  rintro _ ⟨⟩

theorem past_self (trip : Trip) : trip.Past trip.reach :=
  fun distance member => ⟨distance, member, Nat.le_refl _⟩

theorem Past.trans {mark : Option Nat} (first_past : first.Past mark)
    (second_past : second.Past first.reach) : second.Past mark := by
  intro distance member
  obtain ⟨further, known, far⟩ := first_past distance member
  obtain ⟨furthest, known', far'⟩ := second_past further known
  exact ⟨furthest, known', Nat.le_trans far far'⟩

theorem past_andThen (first second : Trip) : (first.andThen second).Past first.reach :=
  fun distance member => exists_le_max (.inl ⟨distance, member, Nat.le_refl _⟩)

/-- Another text shows the trip the same characters: it is the same up to a character behind all
that the trip consumed, for a run reads the character it stands before and no other. -/
inductive Sees (trip : Trip) : List Char → List Char → Prop where
  | same (text : List Char) : Sees trip text text
  | upTo {seen left left' : List Char} {char : Char}
      (near : ∀ distance ∈ trip.reach, distance < Text.size seen) :
      Sees trip (seen ++ char :: left) (seen ++ char :: left')

namespace Sees

variable {other : List Char}

theorem head (sees : trip.Sees text other) : other.head? = text.head? := by
  cases sees with
  | same => rfl
  | @upTo seen => cases seen <;> rfl

theorem mono (sees : second.Sees text other) (past : second.Past first.reach) :
    first.Sees text other := by
  cases sees with
  | same => exact .same text
  | upTo near =>
    refine .upTo fun distance member => ?_
    obtain ⟨further, known, far⟩ := past distance member
    exact Nat.lt_of_le_of_lt far (near further known)

/-- What the trip has taken stands before the last character that the texts share. -/
theorem taken_prefix {seen left : List Char} {char : Char}
    (within : trip.Within (seen ++ char :: left))
    (near : ∀ distance ∈ trip.reach, distance < Text.size seen) :
    ∃ more, seen = trip.taken ++ more := by
  rcases List.append_eq_append_iff.mp within.split.symm with ⟨more, split, _⟩ | ⟨more, split, _⟩
  · exact ⟨more, split⟩
  · by_cases last : more = []
    · exact ⟨[], by rw [split, last, List.append_nil, List.append_nil]⟩
    · have moved : trip.taken ≠ [] := by simp [split, last]
      obtain ⟨distance, member, far⟩ := within.trail moved
      have short := near distance member
      rw [split, List.dropLast_append_of_ne_nil last, Text.size_append] at far
      omega

theorem andThen (within : first.Within text) (sees : (first.andThen second).Sees text other) :
    ∃ left, other = first.taken ++ left ∧ second.Sees first.left left := by
  cases sees with
  | same => exact ⟨first.left, within.split, .same _⟩
  | @upTo seen left left' char near =>
    have before : ∀ distance ∈ first.reach, distance < Text.size seen := by
      intro distance member
      obtain ⟨further, known, far⟩ := past_andThen first second distance member
      exact Nat.lt_of_le_of_lt far (near further known)
    obtain ⟨more, rfl⟩ := taken_prefix within before
    have rest : first.left = more ++ char :: left := by
      have split := within.split
      rw [List.append_assoc] at split
      exact (List.append_cancel_left split).symm
    refine ⟨more ++ char :: left', List.append_assoc _ _ _, ?_⟩
    rw [rest]
    refine .upTo fun distance member => ?_
    have far : ∃ further ∈ (first.andThen second).reach,
        Text.size first.taken + distance ≤ further :=
      exists_le_max (.inr ⟨_, Option.mem_map_of_mem _ member, Nat.le_refl _⟩)
    obtain ⟨further, known, far⟩ := far
    have short := near further known
    rw [Text.size_append] at short
    omega

theorem split (within : trip.Within text) (sees : trip.Sees text other) :
    ∃ left, other = trip.taken ++ left := by
  cases sees with
  | same => exact ⟨trip.left, within.split⟩
  | @upTo seen left left' char near =>
    obtain ⟨more, rfl⟩ := taken_prefix within near
    exact ⟨more ++ char :: left', List.append_assoc _ _ _⟩

end Sees

end Trip

namespace State

variable {state : State} {trip : Trip} {front text : List Char} {char : Char}

/-- The state after a trip. -/
def follow (state : State) (trip : Trip) : State where
  source := state.source
  cursor := state.cursor + Text.size trip.taken
  furthest := max state.furthest (trip.reach.map (state.cursor + ·))

@[simp] theorem follow_source (state : State) (trip : Trip) :
    (state.follow trip).source = state.source := rfl

@[simp] theorem follow_still (state : State) (text : List Char) :
    state.follow (.still text) = state := by
  simp [follow, Trip.still]

@[simp] theorem follow_back (state : State) (trip : Trip) :
    state.follow trip.back = (state.follow trip).rewind state.cursor := rfl

theorem follow_andThen (state : State) (first second : Trip) :
    state.follow (first.andThen second) = (state.follow first).follow second := by
  have furthest : ∀ a b c : Option Nat, max a (max b c) = max (max a b) c := by
    intro a b c
    cases a <;> cases b <;> cases c <;> simp [Nat.max_assoc]
  simp only [follow, Trip.andThen, Text.size_append, State.mk.injEq, true_and]
  refine ⟨by omega, ?_⟩
  rw [← furthest]
  cases first.reach <;> cases second.reach <;> simp [Nat.add_assoc]

theorem follow_start (source : String) (trip : Trip) :
    ((start source).follow trip).furthest = trip.reach ∧
      ((start source).follow trip).cursor = Text.size trip.taken := by
  simp [follow, start]

/-- Choice compares cursors; a trip shows what it finds. -/
@[simp] theorem follow_cursor_eq (state : State) (trip : Trip) :
    (state.follow trip).cursor = state.cursor ↔ trip.taken = [] := by
  simp only [follow, ← Text.size_eq_zero]
  omega

theorem Splits.follow_taken (splits : state.Splits front (trip.taken ++ text)) :
    (state.follow trip).Splits (front ++ trip.taken) text := by
  constructor
  · rw [follow_source, splits.source, List.append_assoc]
  · rw [State.follow, splits.cursor, Text.size_append]

theorem Splits.follow (splits : state.Splits front text) (within : trip.Within text) :
    (state.follow trip).Splits (front ++ trip.taken) trip.left :=
  follow_taken (within.split ▸ splits)

/-- Consuming a character takes it and reaches to its start. -/
theorem Splits.advance_eq_follow (splits : state.Splits front (char :: text)) :
    state.advance = state.follow ⟨[char], text, some 0⟩ := by
  cases furthest : state.furthest <;>
    simp [State.advance, State.follow, splits.peek, deepest, furthest]

/-- Consuming at the end takes nothing and still reaches there. -/
theorem Splits.advance_end_eq_follow (splits : state.Splits front []) :
    state.advance = state.follow ⟨[], [], some 0⟩ := by
  cases furthest : state.furthest <;>
    simp [State.advance, State.follow, splits.peek, deepest, furthest]

end State

end CommittedChoice
