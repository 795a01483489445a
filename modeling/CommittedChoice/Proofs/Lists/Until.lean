import CommittedChoice.Proofs.Locality.Again

/-! A list up to a terminator can be read in two ways. One tries the terminator before every item;
the other repeats items that are read where the terminator does not match, and reads the
terminator after them. Both step over the same items to the same match of the terminator. -/
namespace CommittedChoice

variable {ι : Type} {τ : ι → Type} {α β : Type}

/-- An item is read where the terminator fails, and from there: the failed run is given back. -/
def StepsOver (item : State → Reply α → Prop) (terminator : State → Reply β → Prop)
    (state : State) (value : α) (after : State) : Prop :=
  ∃ expected failed, terminator state (.failure expected, failed) ∧
    item (failed.rewind state.cursor) (.success value, after)

namespace Grammar

variable {rules : Rules τ} {item : Grammar τ α} {terminator : Grammar τ β}
  {state after : State} {value : α} {values : List α}

/-- Some run of the grammar at this place of the source succeeds. -/
def MatchesAt (rules : Rules τ) (g : Grammar τ α) (source : String) (cursor : Nat) : Prop :=
  ∃ furthest value after, g.Replies rules ⟨source, cursor, furthest⟩ (.success value, after)

theorem passes_attempt_iff :
    Passes (item.Replies rules) ((attempt terminator).Replies rules) state value after ↔
      StepsOver (item.Replies rules) (terminator.Replies rules) state value after := by
  constructor
  · rintro ⟨expected, middle, attempted, _, read⟩
    rcases replies_attempt.mp attempted with ⟨_, _, _, ⟨⟩⟩ | ⟨_, failed, run, same⟩
    cases same
    exact ⟨expected, failed, run, read⟩
  · rintro ⟨expected, failed, run, read⟩
    exact ⟨expected, _, replies_attempt.mpr (.inr ⟨expected, failed, run, rfl⟩), rfl, read⟩

theorem succeeds_notFollowedBy_iff :
    Succeeds ((seqRight (notFollowedBy terminator) item).Replies rules) state value after ↔
      StepsOver (item.Replies rules) (terminator.Replies rules) state value after := by
  rw [Succeeds, replies_seqRight, replies_bind]
  constructor
  · rintro (⟨_, middle, ahead, read⟩ | ⟨_, _, _, ⟨⟩⟩)
    rcases replies_notFollowedBy.mp ahead with ⟨_, _, _, ⟨⟩⟩ | ⟨expected, failed, run, same⟩
    cases same
    exact ⟨expected, failed, run, read⟩
  · rintro ⟨expected, failed, run, read⟩
    exact .inl ⟨(), _, replies_notFollowedBy.mpr (.inr ⟨expected, failed, run, rfl⟩), read⟩

/-- The list ends at the first match of the terminator that stepping over items comes to. -/
theorem manyTill_attempt_iff :
    (manyTill item (attempt terminator)).Replies rules state (.success values, after) ↔
      ∃ last other,
        Chain (StepsOver (item.Replies rules) (terminator.Replies rules)) state values last ∧
        terminator.Replies rules last (.success other, after) := by
  rw [replies_manyTill]
  constructor
  · rintro ⟨_, last, chain, ⟨other, _, ended, ⟨⟩⟩ | ⟨_, _, _, rest⟩⟩
    · rcases replies_attempt.mp ended with ⟨_, _, run, ⟨⟩⟩ | ⟨_, _, _, ⟨⟩⟩
      exact ⟨last, other, chain.mono fun _ _ _ => passes_attempt_iff.mp, run⟩
    · -- Every other way to stop is a failure.
      split at rest
      · obtain ⟨_, _, _, ⟨⟩⟩ := rest
      · cases rest
  · rintro ⟨last, other, chain, run⟩
    exact ⟨values, last, chain.mono fun _ _ _ => passes_attempt_iff.mpr,
      .inl ⟨other, after, replies_attempt.mpr (.inl ⟨other, after, run, rfl⟩), rfl⟩⟩

theorem onBoundary_of_stepsOver (placed : state.OnBoundary)
    (step : StepsOver (item.Replies rules) (terminator.Replies rules) state value after) :
    after.OnBoundary := by
  obtain ⟨_, _, failed, read⟩ := step
  exact read.onBoundary (failed.rewound placed)

/-- A round that has failed was stopped by the terminator if that matches behind it: a terminator
that has failed before an item fails there again. -/
theorem matched_of_stopped {last stopped : State} {expected : Expected} {other : β}
    (placed : last.OnBoundary)
    (round : (seqRight (notFollowedBy terminator) item).Replies rules last
      (.failure expected, stopped))
    (run : terminator.Replies rules (stopped.rewind last.cursor) (.success other, after)) :
    terminator.Replies rules last (.success other, after) := by
  rcases replies_bind.mp (replies_seqRight.mp round) with
    ⟨_, middle, ahead, unread⟩ | ⟨_, _, ahead, same⟩
  · rcases replies_notFollowedBy.mp ahead with ⟨_, _, _, ⟨⟩⟩ | ⟨_, failed, unmatched, ⟨⟩⟩
    have source : stopped.source = last.source :=
      (unread.source_eq (unmatched.rewound placed)).trans (unmatched.source_eq placed)
    cases unmatched.outcome_eq run placed source rfl
  · cases same
    rcases replies_notFollowedBy.mp ahead with ⟨_, _, matched, ⟨⟩⟩ | ⟨_, _, _, ⟨⟩⟩
    cases run.unique (matched.again placed)
    exact matched

theorem onBoundary_of_steps {last : State} (placed : state.OnBoundary)
    (chain : Chain (StepsOver (item.Replies rules) (terminator.Replies rules)) state values last) :
    last.OnBoundary :=
  (chain.keeping (fun _ _ _ placed step => onBoundary_of_stepsOver placed step) placed).2

/-- The rounds end where the terminator matches, and it is then run a second time. -/
theorem many_notFollowedBy_iff (placed : state.OnBoundary) :
    (seqLeft (many (seqRight (notFollowedBy terminator) item)) terminator).Replies rules state
        (.success values, after) ↔
      ∃ last other,
        Chain (StepsOver (item.Replies rules) (terminator.Replies rules)) state values last ∧
        terminator.Replies rules last (.success other, after) := by
  rw [replies_seqLeft, replies_bind]
  constructor
  · rintro (⟨_, _, rounds, ended⟩ | ⟨_, _, _, ⟨⟩⟩)
    obtain ⟨_, last, chain, expected, stopped, round, ⟨⟩⟩ := replies_many.mp rounds
    rcases replies_map.mp ended with ⟨other, _, run, ⟨⟩⟩ | ⟨_, _, _, ⟨⟩⟩
    have steps := chain.mono fun _ _ _ => succeeds_notFollowedBy_iff.mp
    exact ⟨last, other, steps, matched_of_stopped (onBoundary_of_steps placed steps) round run⟩
  · rintro ⟨last, other, steps, run⟩
    have round : (seqRight (notFollowedBy terminator) item).Replies rules last
        (.failure .nothing, after.rewind last.cursor) :=
      replies_seqRight.mpr (replies_bind.mpr (.inr ⟨_, _,
        replies_notFollowedBy.mpr (.inl ⟨other, after, run, rfl⟩), rfl⟩))
    have rounds : (many (seqRight (notFollowedBy terminator) item)).Replies rules state
        (.success values, after.rewind last.cursor) :=
      replies_many.mpr ⟨values, last, steps.mono fun _ _ _ => succeeds_notFollowedBy_iff.mpr,
        _, _, round, rfl⟩
    have again := run.again (onBoundary_of_steps placed steps)
    exact .inl ⟨values, _, rounds, replies_map.mpr (.inl ⟨other, after, again, rfl⟩)⟩

/-- Nowhere does an item start where the terminator matches. -/
theorem not_matchesAt_of_stepsOver (placed : state.OnBoundary)
    (step : StepsOver (item.Replies rules) (terminator.Replies rules) state value after) :
    ¬terminator.MatchesAt rules state.source state.cursor := by
  rintro ⟨_, _, _, run⟩
  obtain ⟨_, _, failed, _⟩ := step
  cases failed.outcome_eq run placed rfl rfl

/-- A list up to an attempted terminator is the repetition of its items where the terminator does
not match, and the terminator after it: one succeeds where the other does, with the same values
and the same state. So no item starts where the terminator matches, and the list ends right after
the first match that stepping over items comes to. -/
theorem manyTill_iff_many (rules : Rules τ) (item : Grammar τ α) (terminator : Grammar τ β)
    {state : State} (placed : state.OnBoundary) (values : List α) (after : State) :
    ((manyTill item (attempt terminator)).Replies rules state (.success values, after) ↔
      (seqLeft (many (seqRight (notFollowedBy terminator) item)) terminator).Replies rules state
        (.success values, after)) ∧
    ((manyTill item (attempt terminator)).Replies rules state (.success values, after) →
      ∃ last other,
        Chain (fun here value next => ¬terminator.MatchesAt rules here.source here.cursor ∧
          StepsOver (item.Replies rules) (terminator.Replies rules) here value next)
          state values last ∧
        terminator.Replies rules last (.success other, after)) := by
  refine ⟨manyTill_attempt_iff.trans (many_notFollowedBy_iff placed).symm, fun listed => ?_⟩
  obtain ⟨last, other, steps, run⟩ := manyTill_attempt_iff.mp listed
  obtain ⟨placed_steps, _⟩ :=
    steps.keeping (fun _ _ _ placed step => onBoundary_of_stepsOver placed step) placed
  refine ⟨last, other, placed_steps.mono fun _ _ _ known => ?_, run⟩
  exact ⟨not_matchesAt_of_stepsOver known.1 known.2, known.2⟩

/-- A dash and a broken terminator are items. -/
theorem comment_read_twice :
    let item : Grammar (fun _ : Empty => Unit) Char := .satisfy fun _ => true
    let terminator : Grammar (fun _ : Empty => Unit) String := .literal "->"
    let after : State := ⟨"--é->x", 6, some 5⟩
    (State.start "--é->x").OnBoundary ∧
      (manyTill item (attempt terminator)).Replies .empty (.start "--é->x")
        (.success ['-', '-', 'é'], after) ∧
      (seqLeft (many (seqRight (notFollowedBy terminator) item)) terminator).Replies .empty
        (.start "--é->x") (.success ['-', '-', 'é'], after) := by
  intro item terminator after
  have placed : (State.start "--é->x").OnBoundary := by decide
  have listed : (manyTill item (attempt terminator)).Replies .empty (.start "--é->x")
      (.success ['-', '-', 'é'], after) := ⟨4, by decide⟩
  exact ⟨placed, listed,
    (manyTill_iff_many .empty item terminator placed ['-', '-', 'é'] after).1.mp listed⟩

end Grammar

end CommittedChoice
