import CommittedChoice.Parser.Separated
import CommittedChoice.Proofs.Locality.Trip

/-! A local parser reads nothing but the text after its cursor: from every state with that text it
ends alike, with the same trip, or it has no reply there. Of that text it sees no more than one
character behind all that it consumes. Every combinator keeps locality, the loops among them round
by round. -/
namespace CommittedChoice.Parser

variable {α β γ : Type} {p : Parser α} {q : Parser β} {text : List Char} {trip : Trip}
  {mark : Option Nat}

/-- The run ends with this outcome and makes this trip, whatever stands before the text, and on
every text that shows the trip the same characters. -/
structure Ends (p : Parser α) (text : List Char) (outcome : Outcome Expected α) (trip : Trip) :
    Prop where
  within : trip.Within text
  alike : ∀ {other state front}, trip.Sees text other → State.Splits state front other →
    p state = some (outcome, state.follow trip)

theorem Ends.run {outcome : Outcome Expected α} (ends : p.Ends text outcome trip) {state : State}
    {front : List Char} (splits : state.Splits front text) :
    p state = some (outcome, state.follow trip) :=
  ends.alike (.same text) splits

def Diverges (p : Parser α) (text : List Char) : Prop :=
  ∀ {state front}, State.Splits state front text → p state = none

/-- The parser has no reply on the text, or it makes a trip as far as the mark at least. -/
def LocalAt (p : Parser α) (text : List Char) (mark : Option Nat) : Prop :=
  p.Diverges text ∨ ∃ outcome trip, p.Ends text outcome trip ∧ trip.Past mark

def Local (p : Parser α) : Prop := ∀ text, p.LocalAt text none

namespace LocalAt

theorem ended {outcome : Outcome Expected α} (within : trip.Within text) :
    LocalAt (fun state => some (outcome, state.follow trip)) text trip.reach :=
  .inr ⟨outcome, trip, ⟨within, fun _ _ => rfl⟩, trip.past_self⟩

/-- Parsers that agree on the states with this text are local there together. -/
theorem congr {p' : Parser α} (known : p'.LocalAt text mark) (same : ∀ state, p state = p' state) :
    p.LocalAt text mark := by
  obtain rfl : p = p' := funext same
  exact known

/-- A parser that starts where a trip has led. -/
theorem after (within : trip.Within text) (known : p.LocalAt trip.left none) :
    LocalAt (fun state => p (state.follow trip)) text trip.reach := by
  rcases known with never | ⟨outcome, further, ends, _⟩
  · exact .inl fun splits => never (splits.follow within)
  · refine .inr ⟨outcome, trip.andThen further, ⟨within.andThen ends.within, ?_⟩,
      Trip.past_andThen trip further⟩
    intro other state front sees splits
    obtain ⟨left, rfl, sees'⟩ := sees.andThen within
    rw [State.follow_andThen]
    exact ends.alike sees' splits.follow_taken

/-- What goes on from a reply is local when it is for every outcome and trip of the reply. It goes
at least as far as that trip, so that the texts which it sees alike are alike to the first run. -/
theorem step {next : State → Reply α → Option (Reply β)} (known : p.LocalAt text mark)
    (rest : ∀ outcome trip, p.Ends text outcome trip →
      LocalAt (fun state => next state (outcome, state.follow trip)) text trip.reach) :
    LocalAt (fun state => p state >>= next state) text mark := by
  rcases known with never | ⟨outcome, trip, ends, past⟩
  · refine .inl fun splits => ?_
    simp only [never splits]
    rfl
  · rcases rest outcome trip ends with never | ⟨outcome', further, ends', past'⟩
    · refine .inl fun splits => ?_
      simp only [ends.run splits]
      exact never splits
    · refine .inr ⟨outcome', further, ⟨ends'.within, fun sees splits => ?_⟩, past.trans past'⟩
      simp only [ends.alike (sees.mono past') splits]
      exact ends'.alike sees splits

end LocalAt

namespace Local

/-- A single run tells the trip of all runs over its text. -/
theorem ends {state after : State} {front : List Char} {outcome : Outcome Expected α}
    (known : p.Local) (splits : state.Splits front text)
    (run : p state = some (outcome, after)) :
    ∃ trip, p.Ends text outcome trip ∧ after = state.follow trip := by
  rcases known text with never | ⟨outcome', trip, ends, _⟩
  · cases (never splits).symm.trans run
  · cases (ends.run splits).symm.trans run
    exact ⟨trip, ends, rfl⟩

theorem pure (value : α) : (pure value).Local := fun text =>
  .inr ⟨.success value, .still text, ⟨Trip.within_still text, fun _ _ => by
    rw [State.follow_still]
    rfl⟩, Trip.past_none _⟩

theorem fail (expected : Expected) : (fail expected : Parser α).Local := fun text =>
  .inr ⟨.failure expected, .still text, ⟨Trip.within_still text, fun _ _ => by
    rw [State.follow_still]
    rfl⟩, Trip.past_none _⟩

theorem readChar : readChar.Local := by
  intro text
  cases text with
  | nil =>
    refine .inr ⟨.failure (.label "end of input"), .still [], ⟨Trip.within_still [], ?_⟩,
      Trip.past_none _⟩
    intro other state front sees splits
    simp [Parser.readChar, splits.peek, sees.head]
  | cons char rest =>
    refine .inr ⟨.success char, .still _, ⟨Trip.within_still _, ?_⟩, Trip.past_none _⟩
    intro other state front sees splits
    simp [Parser.readChar, splits.peek, sees.head]

/-- Taking the first character is a trip that reaches to its start. -/
theorem within_char (char : Char) (rest : List Char) :
    Trip.Within ⟨[char], rest, some 0⟩ (char :: rest) :=
  ⟨rfl, fun _ member => ⟨[], _, rfl, Option.some.inj member⟩, fun _ => ⟨0, rfl, Nat.le_refl _⟩⟩

theorem within_end : Trip.Within ⟨[], [], some 0⟩ [] :=
  ⟨rfl, fun _ member => ⟨[], [], rfl, Option.some.inj member⟩, fun moved => absurd rfl moved⟩

/-- Taking the first character is the same in every text that begins with it. -/
theorem advance_of_sees {char : Char} {rest other front : List Char} {state : State}
    (sees : Trip.Sees ⟨[char], rest, some 0⟩ (char :: rest) other)
    (splits : state.Splits front other) :
    state.peek = some char ∧ state.advance = state.follow ⟨[char], rest, some 0⟩ := by
  have head : other.head? = some char := sees.head
  obtain ⟨others, rfl⟩ := List.head?_eq_some_iff.mp head
  exact ⟨splits.peek, splits.advance_eq_follow⟩

theorem consumeOne : consumeOne.Local := by
  intro text
  cases text with
  | nil =>
    refine .inr ⟨.success (), _, ⟨within_end, ?_⟩, Trip.past_none _⟩
    intro other state front sees splits
    obtain rfl : other = [] := List.head?_eq_none_iff.mp sees.head
    simp [Parser.consumeOne, splits.advance_end_eq_follow]
  | cons char rest =>
    refine .inr ⟨.success (), _, ⟨within_char char rest, ?_⟩, Trip.past_none _⟩
    intro other state front sees splits
    simp [Parser.consumeOne, (advance_of_sees sees splits).2]

theorem satisfy (accepts : Char → Bool) : (satisfy accepts).Local := by
  intro text
  cases text with
  | nil =>
    refine .inr ⟨.failure .nothing, .still [], ⟨Trip.within_still [], ?_⟩, Trip.past_none _⟩
    intro other state front sees splits
    simp [Parser.satisfy, splits.peek, sees.head]
  | cons char rest =>
    by_cases accepted : accepts char
    · refine .inr ⟨.success char, _, ⟨within_char char rest, ?_⟩, Trip.past_none _⟩
      intro other state front sees splits
      obtain ⟨peek, advance⟩ := advance_of_sees sees splits
      simp [Parser.satisfy, peek, accepted, advance]
    · refine .inr ⟨.failure .nothing, .still _, ⟨Trip.within_still _, ?_⟩, Trip.past_none _⟩
      intro other state front sees splits
      simp [Parser.satisfy, splits.peek, sees.head, accepted]

/-- Matching takes the characters one by one, so it is followed from wherever it has come to. -/
theorem matchChars (chars text : List Char) :
    ∃ matched trip, trip.Within text ∧ ∀ {other state front}, trip.Sees text other →
      State.Splits state front other → matchChars chars state = (matched, state.follow trip) := by
  induction chars generalizing text with
  | nil => exact ⟨true, .still text, Trip.within_still text, by simp [Parser.matchChars]⟩
  | cons char chars ih =>
    by_cases head : text.head? = some char
    · obtain ⟨rest, rfl⟩ : ∃ rest, text = char :: rest := List.head?_eq_some_iff.mp head
      obtain ⟨matched, trip, within, run⟩ := ih rest
      have first := within_char char rest
      refine ⟨matched, _, first.andThen within, ?_⟩
      intro other state front sees splits
      obtain ⟨peek, advance⟩ := advance_of_sees (sees.mono (Trip.past_andThen _ trip)) splits
      obtain ⟨left, rfl, sees'⟩ := sees.andThen first
      rw [State.follow_andThen, Parser.matchChars, if_pos peek, advance]
      exact run sees' splits.follow_taken
    · refine ⟨false, .still text, Trip.within_still text, ?_⟩
      intro other state front sees splits
      rw [State.follow_still, Parser.matchChars, splits.peek, sees.head, if_neg head]

theorem literal (text : String) : (literal text).Local := by
  intro rest
  obtain ⟨matched, trip, within, run⟩ := matchChars text.toList rest
  cases matched with
  | true =>
    exact .inr ⟨.success text, trip, ⟨within, fun sees splits => by
      rw [Parser.literal, run sees splits]⟩, trip.past_none⟩
  | false =>
    exact .inr ⟨.failure (.literal text), trip, ⟨within, fun sees splits => by
      rw [Parser.literal, run sees splits]⟩, trip.past_none⟩

theorem map (f : α → β) (first : p.Local) : (p.map f).Local := by
  intro text
  apply (first text).step
  rintro (expected | value) trip ends
  · exact .ended ends.within
  · exact .ended ends.within

theorem bind {f : α → Parser β} (first : p.Local) (next : ∀ value, (f value).Local) :
    (p.bind f).Local := by
  intro text
  apply (first text).step
  rintro (expected | value) trip ends
  · exact .ended ends.within
  · exact .after ends.within (next value trip.left)

theorem seqRight (first : p.Local) (second : q.Local) : (p.seqRight q).Local :=
  first.bind fun _ => second

theorem seqLeft (first : p.Local) (second : q.Local) : (p.seqLeft q).Local :=
  first.bind fun value => second.map fun _ => value

theorem seqPair (first : p.Local) (second : q.Local) : (p.seqPair q).Local :=
  first.bind fun value => second.map fun other => (value, other)

theorem between {r : Parser γ} (opening : p.Local) (closing : q.Local) (content : r.Local) :
    (between p q r).Local :=
  opening.bind fun _ => content.seqLeft closing

theorem recognize (first : p.Local) : p.recognize.Local := by
  intro text
  apply (first text).step
  rintro (expected | value) trip ends
  · exact .ended ends.within
  · -- The slice between the two cursors is the text taken.
    refine .inr ⟨.success (String.ofList trip.taken), trip, ⟨ends.within, ?_⟩, trip.past_self⟩
    intro other state front sees splits
    obtain ⟨left, rfl⟩ := sees.split ends.within
    have slice : state.between? (state.follow trip) = some (String.ofList trip.taken) :=
      State.Splits.between? splits splits.follow_taken
    simp only [slice, Option.getD_some]

end Local

end CommittedChoice.Parser
