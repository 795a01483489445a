import CommittedChoice.Proofs.Reading.Takes
import CommittedChoice.Proofs.Reading.Yields

/-! What a loop has read when some of its rounds may go wrong without failing. Such a round leaves a
text at which the loop is stuck: the next round is refused there. -/
namespace CommittedChoice.Parser

variable {α β : Type} {p : Parser α} {q : Parser β} {k : α → Parser β} {R : α → List Char → Prop}
  {S : List Char → Prop} {Stuck : List Char → Prop} {state after : State}
  {front taken left text : List Char} {value : α} {values before : List α} {limit : Nat}

/-- Once the first parser has taken something, the run does not come back to the start. -/
theorem bind_moves {outcome : Outcome Expected β} (first : p.Takes taken left (.success value))
    (moved : taken ≠ []) (next : (k value).Local) (splits : state.Splits front (taken ++ left))
    (run : p.bind k state = some (outcome, after)) : after.cursor ≠ state.cursor := by
  obtain ⟨middle, ran, _, splits'⟩ := first splits
  simp only [bind, ran, Option.bind_eq_bind, Option.bind_some] at run
  obtain ⟨trip, _, rfl⟩ := next.ends splits' run
  have positive := Nat.pos_of_ne_zero fun none => moved (Text.size_eq_zero.mp none)
  simp only [State.follow, splits'.cursor, splits.cursor, Text.size_append]
  omega

theorem gather_ne_failure {expected : Expected} :
    gather p limit before state ≠ some (.failure expected, after) := by
  induction limit generalizing before state with
  | zero => rintro ⟨⟩
  | succ limit rounds =>
    intro run
    obtain ⟨⟨expected | value, middle⟩, _, rest⟩ := Option.bind_eq_some_iff.mp run
    · cases rest
    · exact rounds rest

theorem sepBy_ne_failure {expected : Expected} :
    sepBy limit p q state ≠ some (.failure expected, after) := by
  intro run
  obtain ⟨⟨expected | value, middle⟩, _, rest⟩ := Option.bind_eq_some_iff.mp run
  · cases rest
  · dsimp only at rest
    rw [gatherSeparated_eq] at rest
    exact gather_ne_failure rest

/-- A loop adds to what it has. -/
theorem gather_prefix (run : gather p limit before state = some (.success values, after)) :
    ∃ more, values = before.reverse ++ more := by
  induction limit generalizing before state with
  | zero => cases run
  | succ limit rounds =>
    obtain ⟨⟨expected | value, middle⟩, _, rest⟩ := Option.bind_eq_some_iff.mp run
    · cases rest
      exact ⟨[], (List.append_nil _).symm⟩
    · obtain ⟨more, rfl⟩ := rounds rest
      exact ⟨value :: more, by simp⟩

/-- A list is empty only where its first item fails. -/
theorem sepBy_nil (run : sepBy limit p q state = some (.success [], after)) :
    ∃ expected middle, p state = some (.failure expected, middle) := by
  obtain ⟨⟨expected | value, middle⟩, ran, rest⟩ := Option.bind_eq_some_iff.mp run
  · obtain ⟨_, _, _, ⟨⟩⟩ | ⟨expected, middle, ran, _⟩ := attempt_eq_some.mp ran
    exact ⟨expected, middle, ran⟩
  · dsimp only at rest
    rw [gatherSeparated_eq] at rest
    obtain ⟨more, same⟩ := gather_prefix rest
    simp at same

/-- What has been read stands in the relation to the values, or else a stuck text is left. -/
def YieldsUnless (Stuck : List Char → Prop) (p : Parser α) (R : α → List Char → Prop) : Prop :=
  ∀ ⦃state front text value after⦄, State.Splits state front text →
    p state = some (.success value, after) →
    ∃ taken left, text = taken ++ left ∧ after.Splits (front ++ taken) left ∧
      (R value taken ∨ Stuck left)

/-- A loop that is refused at once has read nothing. -/
theorem gather_refused (refused : p.Refuses text) (splits : state.Splits front text)
    (run : gather p limit before state = some (.success values, after)) :
    after.Splits front text := by
  cases limit with
  | zero => cases run
  | succ limit =>
    obtain ⟨expected, middle, ran, _, _, splits'⟩ := refused.attempt.run splits
    simp only [gather, ran, Option.bind_eq_bind, Option.bind_some] at run
    cases run
    exact splits'

namespace YieldsUnless

theorem gather (body : YieldsUnless Stuck p R) (here : p.Local)
    (refused : ∀ text, Stuck text → p.Refuses text) (limit : Nat) (before : List α) :
    YieldsUnless Stuck (gather p limit before) fun values text =>
      ∃ more, values = before.reverse ++ more ∧ Pieces R more text := by
  induction limit generalizing before with
  | zero => rintro _ _ _ _ _ _ ⟨⟩
  | succ limit rounds =>
    intro state front text values after splits run
    obtain ⟨⟨expected | value, middle⟩, ran, rest⟩ := Option.bind_eq_some_iff.mp run
    · obtain ⟨_, _, _, ⟨⟩⟩ | ⟨_, _, failed, rfl, rfl⟩ := attempt_eq_some.mp ran
      cases rest
      exact ⟨[], text, rfl, by simpa using here.splits_rewind splits failed,
        .inl ⟨[], by simp, .nil⟩⟩
    · obtain ⟨_, _, found, rfl, rfl⟩ | ⟨_, _, _, ⟨⟩⟩ := attempt_eq_some.mp ran
      obtain ⟨piece, left, rfl, splits, read | stuck⟩ := body splits found
      · obtain ⟨taken, left, rfl, splits, others⟩ := rounds (value :: before) splits rest
        refine ⟨piece ++ taken, left, by simp, by simpa using splits, others.imp_left ?_⟩
        rintro ⟨more, rfl, pieces⟩
        exact ⟨value :: more, by simp, .cons read pieces⟩
      · exact ⟨piece, left, rfl, gather_refused (refused left stuck) splits rest, .inr stuck⟩

theorem sepBy (item : YieldsUnless Stuck p R) (separator : q.Yields fun _ piece => S piece)
    (here : p.Local) (there : q.Local) (refused : ∀ text, Stuck text → q.Refuses text)
    (limit : Nat) : YieldsUnless Stuck (sepBy limit p q) (Listed R S) := by
  have round : YieldsUnless Stuck (q.seqRight p) (After S R) := by
    intro state front text value after splits run
    obtain ⟨⟨expected | other, middle⟩, ran, rest⟩ := Option.bind_eq_some_iff.mp run
    · cases rest
    · obtain ⟨apart, left, rfl, splits, between⟩ := separator splits ran
      obtain ⟨piece, left, rfl, splits, found⟩ := item splits rest
      exact ⟨apart ++ piece, left, by simp, by simpa using splits,
        found.imp_left fun next => .mk between next⟩
  intro state front text values after splits run
  obtain ⟨⟨expected | value, middle⟩, ran, rest⟩ := Option.bind_eq_some_iff.mp run
  · obtain ⟨_, _, _, ⟨⟩⟩ | ⟨_, _, failed, rfl, rfl⟩ := attempt_eq_some.mp ran
    cases rest
    exact ⟨[], text, rfl, by simpa using here.splits_rewind splits failed, .inl .nil⟩
  · obtain ⟨_, _, found, rfl, rfl⟩ | ⟨_, _, _, ⟨⟩⟩ := attempt_eq_some.mp ran
    dsimp only at rest
    rw [gatherSeparated_eq] at rest
    have refused' : ∀ text, Stuck text → (q.seqRight p).Refuses text :=
      fun text stuck => (refused text stuck).seqRight
    obtain ⟨piece, left, rfl, splits, read | stuck⟩ := item splits found
    · obtain ⟨taken, left, rfl, splits, others⟩ :=
        round.gather (there.seqRight here) refused' limit [value] splits rest
      refine ⟨piece ++ taken, left, by simp, by simpa using splits, others.imp_left ?_⟩
      rintro ⟨more, rfl, pieces⟩
      exact .cons read pieces
    · exact ⟨piece, left, rfl, gather_refused (refused' left stuck) splits rest, .inr stuck⟩

end YieldsUnless

end CommittedChoice.Parser
