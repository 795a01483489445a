import CommittedChoice.Parser.Inversion

/-! Loops told by their rounds. A chain gathers values step by step, each step from the state the
one before it left; a loop that has ended is a chain of complete rounds and the round that stopped
it. -/
namespace CommittedChoice

variable {α β : Type}

inductive Chain (step : State → α → State → Prop) : State → List α → State → Prop where
  | nil {state : State} : Chain step state [] state
  | cons {state middle after : State} {value : α} {values : List α}
      (first : step state value middle) (others : Chain step middle values after) :
      Chain step state (value :: values) after

theorem Chain.mono {step step' : State → α → State → Prop} {state after : State}
    {values : List α} (chain : Chain step state values after)
    (each : ∀ state value after, step state value after → step' state value after) :
    Chain step' state values after := by
  induction chain with
  | nil => exact .nil
  | cons first _ ih => exact .cons (each _ _ _ first) ih

/-- What every step keeps holds at the start of each step, and at the end. -/
theorem Chain.keeping {step : State → α → State → Prop} {kept : State → Prop}
    {state after : State} {values : List α} (chain : Chain step state values after)
    (each : ∀ state value after, kept state → step state value after → kept after)
    (known : kept state) :
    Chain (fun state value after => kept state ∧ step state value after) state values after ∧
      kept after := by
  induction chain with
  | nil => exact ⟨.nil, known⟩
  | cons first _ ih =>
    obtain ⟨others, last⟩ := ih (each _ _ _ known first)
    exact ⟨.cons ⟨known, first⟩ others, last⟩

/-- The last of several things is the last of those after the first, or the first. -/
theorem getLast?_cons_getD {γ : Type} (f : γ → State) (first : γ) (others : List γ)
    (start : State) :
    ((first :: others).getLast?.map f).getD start = (others.getLast?.map f).getD (f first) := by
  rw [List.getLast?_cons]
  cases others.getLast? <;> rfl

section Rounds

variable (run item : State → Reply α → Prop) (separator : State → Reply β → Prop)

def Succeeds (state : State) (value : α) (after : State) : Prop := run state (.success value, after)

/-- A loop over attempts stops where a run fails, and the failed run is given back. -/
def Exhausts (last : State) (values : List β) (reply : Reply (List β)) : Prop :=
  ∃ expected after, run last (.failure expected, after) ∧
    (.success values, after.rewind last.cursor) = reply

/-- A list stops where a separator fails, and where an item fails after a separator that is kept. -/
def ExhaustsAfter (last : State) (values : List α) (reply : Reply (List α)) : Prop :=
  Exhausts separator last values reply ∨
    ∃ other middle, separator last (.success other, middle) ∧ Exhausts item middle values reply

/-- An item is read where the terminator has failed without moving the cursor. -/
def Passes (terminator : State → Reply β → Prop) (state : State) (value : α) (after : State) :
    Prop :=
  ∃ expected middle, terminator state (.failure expected, middle) ∧
    middle.cursor = state.cursor ∧ item middle (.success value, after)

/-- A list with a terminator stops where that matches. It fails where an item does in its place,
and where the terminator fails having moved the cursor. -/
def StopsAt (terminator : State → Reply β → Prop) (last : State) (values : List α)
    (reply : Reply (List α)) : Prop :=
  (∃ other after, terminator last (.success other, after) ∧ (.success values, after) = reply) ∨
    ∃ expected middle, terminator last (.failure expected, middle) ∧
      if middle.cursor = last.cursor then
        ∃ expected' after, item middle (.failure expected', after) ∧
          (.failure (if after.cursor = last.cursor then expected.merge expected' else expected'),
            after) = reply
      else (.failure expected, middle) = reply

end Rounds

namespace Parser

variable {p item : Parser α} {separator : Parser β} {state : State} {limit : Nat}
  {taken : List α} {reply : Reply (List α)}

def Runs (p : Parser α) (state : State) (reply : Reply α) : Prop := p state = some reply

/-- A loop that goes on after a step and stops otherwise. -/
theorem loop_eq_some {loop : Nat → List α → Parser (List α)} {step : State → α → State → Prop}
    {stop : State → List α → Reply (List α) → Prop}
    (spent : ∀ taken state, loop 0 taken state = none)
    (round : ∀ limit taken state reply, loop (limit + 1) taken state = some reply ↔
      (∃ value after, step state value after ∧ loop limit (value :: taken) after = some reply) ∨
      stop state taken.reverse reply) :
    loop limit taken state = some reply ↔
      ∃ values last, Chain step state values last ∧ values.length < limit ∧
        stop last (taken.reverse ++ values) reply := by
  induction limit generalizing state taken with
  | zero => simp [spent]
  | succ limit rounds =>
    rw [round]
    constructor
    · rintro (⟨value, middle, first, rest⟩ | stopped)
      · obtain ⟨values, last, chain, fewer, stopped⟩ := rounds.mp rest
        exact ⟨value :: values, last, .cons first chain, Nat.succ_lt_succ fewer,
          by simpa using stopped⟩
      · exact ⟨[], state, .nil, Nat.succ_pos limit, by simpa using stopped⟩
    · rintro ⟨values, last, chain, fewer, stopped⟩
      cases chain with
      | nil => exact .inr (by simpa using stopped)
      | @cons _ middle _ value values first others =>
        exact .inl ⟨value, middle, first, rounds.mpr ⟨values, last, others,
          Nat.lt_of_succ_lt_succ fewer, by simpa using stopped⟩⟩

theorem gather_eq_some :
    gather p limit taken state = some reply ↔
      ∃ values last, Chain (Succeeds p.Runs) state values last ∧ values.length < limit ∧
        Exhausts p.Runs last (taken.reverse ++ values) reply := by
  refine loop_eq_some (fun _ _ => rfl) fun limit taken state reply => ?_
  rcases run : p state with _ | ⟨expected | value, after⟩ <;>
    simp [gather, attempt, Succeeds, Runs, Exhausts, run, and_assoc]

theorem gatherSeparated_eq_some :
    gatherSeparated item separator limit taken state = some reply ↔
      ∃ values last, Chain (Succeeds (separator.seqRight item).Runs) state values last ∧
        values.length < limit ∧
        Exhausts (separator.seqRight item).Runs last (taken.reverse ++ values) reply := by
  rw [gatherSeparated_eq]
  exact gather_eq_some

theorem gatherSepEnd_eq_some :
    gatherSepEnd item separator limit taken state = some reply ↔
      ∃ values last, Chain (Succeeds (separator.seqRight item).Runs) state values last ∧
        values.length < limit ∧
        ExhaustsAfter item.Runs separator.Runs last (taken.reverse ++ values) reply := by
  refine loop_eq_some (fun _ _ => rfl) fun limit taken state reply => ?_
  rcases run : separator state with _ | ⟨expected | other, middle⟩
  · simp [gatherSepEnd, attempt, Succeeds, Runs, ExhaustsAfter, Exhausts, seqRight, run]
  · simp [gatherSepEnd, attempt, Succeeds, Runs, ExhaustsAfter, Exhausts, seqRight, run, and_assoc]
  · rcases run' : item middle with _ | ⟨expected | value, after⟩ <;>
      simp [gatherSepEnd, attempt, Succeeds, Runs, ExhaustsAfter, Exhausts, seqRight, run, run',
        and_assoc]

theorem gatherTill_eq_some {terminator : Parser β} :
    gatherTill item terminator limit taken state = some reply ↔
      ∃ values last, Chain (Passes item.Runs terminator.Runs) state values last ∧
        values.length < limit ∧
        StopsAt item.Runs terminator.Runs last (taken.reverse ++ values) reply := by
  refine loop_eq_some (fun _ _ => rfl) fun limit taken state reply => ?_
  rcases run : terminator state with _ | ⟨expected | other, middle⟩
  · simp [gatherTill, Passes, StopsAt, Runs, run]
  · by_cases clean : middle.cursor = state.cursor
    · rcases run' : item middle with _ | ⟨expected' | value, after⟩
      · simp [gatherTill, Passes, StopsAt, Runs, run, run', clean, and_assoc]
      · by_cases clean' : after.cursor = state.cursor <;>
          simp [gatherTill, Passes, StopsAt, Runs, run, run', clean, clean', and_assoc]
      · simp [gatherTill, Passes, StopsAt, Runs, run, run', clean, and_assoc]
    · simp [gatherTill, Passes, StopsAt, Runs, run, clean, and_assoc]
  · simp [gatherTill, Passes, StopsAt, Runs, run, and_assoc]

/-- A count goes on after the runs that have succeeded with what is left to do. -/
theorem countFrom_of_chain {after : State} {values : List α} (times : Nat)
    (chain : Chain (Succeeds p.Runs) state values after) :
    countFrom p (values.length + times) taken state =
      countFrom p times (values.reverse ++ taken) after := by
  induction chain generalizing taken with
  | nil => rw [List.length_nil, Nat.zero_add, List.reverse_nil, List.nil_append]
  | @cons state middle after value values first _ ih =>
    have run : p state = some (.success value, middle) := first
    have round : countFrom p (values.length + times + 1) taken state =
        countFrom p (values.length + times) (value :: taken) middle := by simp [countFrom, run]
    rw [List.length_cons, Nat.succ_add, round, ih, List.reverse_cons, List.append_assoc,
      List.singleton_append]

theorem many1_eq_some :
    many1 limit p state = some reply ↔
      (∃ value after, p state = some (.success value, after) ∧
        ∃ values last, Chain (Succeeds p.Runs) after values last ∧ values.length < limit ∧
          Exhausts p.Runs last (value :: values) reply) ∨
      ∃ expected after, p state = some (.failure expected, after) ∧
        (.failure expected, after.rewind state.cursor) = reply :=
  attempt_turn_eq_some (fun _ _ => gather_eq_some) fun _ _ => Option.some_inj

theorem sepBy_eq_some :
    sepBy limit item separator state = some reply ↔
      (∃ value after, item state = some (.success value, after) ∧
        ∃ values last, Chain (Succeeds (separator.seqRight item).Runs) after values last ∧
          values.length < limit ∧
          Exhausts (separator.seqRight item).Runs last (value :: values) reply) ∨
      ∃ expected after, item state = some (.failure expected, after) ∧
        (.success [], after.rewind state.cursor) = reply :=
  attempt_turn_eq_some (fun _ _ => gatherSeparated_eq_some) fun _ _ => Option.some_inj

theorem sepBy1_eq_some :
    sepBy1 limit item separator state = some reply ↔
      (∃ value after, item state = some (.success value, after) ∧
        ∃ values last, Chain (Succeeds (separator.seqRight item).Runs) after values last ∧
          values.length < limit ∧
          Exhausts (separator.seqRight item).Runs last (value :: values) reply) ∨
      ∃ expected after, item state = some (.failure expected, after) ∧
        (.failure expected, after.rewind state.cursor) = reply :=
  attempt_turn_eq_some (fun _ _ => gatherSeparated_eq_some) fun _ _ => Option.some_inj

theorem sepEndBy_eq_some :
    sepEndBy limit item separator state = some reply ↔
      (∃ value after, item state = some (.success value, after) ∧
        ∃ values last, Chain (Succeeds (separator.seqRight item).Runs) after values last ∧
          values.length < limit ∧
          ExhaustsAfter item.Runs separator.Runs last (value :: values) reply) ∨
      ∃ expected after, item state = some (.failure expected, after) ∧
        (.success [], after.rewind state.cursor) = reply :=
  attempt_turn_eq_some (fun _ _ => gatherSepEnd_eq_some) fun _ _ => Option.some_inj

theorem sepEndBy1_eq_some :
    sepEndBy1 limit item separator state = some reply ↔
      (∃ value after, item state = some (.success value, after) ∧
        ∃ values last, Chain (Succeeds (separator.seqRight item).Runs) after values last ∧
          values.length < limit ∧
          ExhaustsAfter item.Runs separator.Runs last (value :: values) reply) ∨
      ∃ expected after, item state = some (.failure expected, after) ∧
        (.failure expected, after.rewind state.cursor) = reply :=
  attempt_turn_eq_some (fun _ _ => gatherSepEnd_eq_some) fun _ _ => Option.some_inj

end Parser

end CommittedChoice
