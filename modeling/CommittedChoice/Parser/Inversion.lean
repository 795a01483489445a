import CommittedChoice.Parser.Separated

/-! What a run that has ended tells of the runs inside it. For each combinator there is one
statement, with a case for each way the run may have gone. -/
namespace CommittedChoice.Parser

variable {α β : Type} {p p' : Parser α} {k : α → Parser β} {f : α → β} {state : State}

/-- What goes on from a run goes on from a success or from a failure, each in its way. -/
theorem turn_eq_some {next : Reply α → Option (Reply β)} {reply : Reply β}
    {onSuccess : α → State → Prop} {onFailure : Expected → State → Prop}
    (success : ∀ value after, next (.success value, after) = some reply ↔ onSuccess value after)
    (failure : ∀ expected after,
      next (.failure expected, after) = some reply ↔ onFailure expected after) :
    (p state >>= next) = some reply ↔
      (∃ value after, p state = some (.success value, after) ∧ onSuccess value after) ∨
      ∃ expected after, p state = some (.failure expected, after) ∧ onFailure expected after := by
  simp only [← success, ← failure]
  rcases p state with _ | ⟨expected | value, after⟩ <;> simp [and_assoc]

theorem bind_eq_some {reply : Reply β} :
    p.bind k state = some reply ↔
      (∃ value after, p state = some (.success value, after) ∧ k value after = some reply) ∨
      ∃ expected after, p state = some (.failure expected, after) ∧
        (.failure expected, after) = reply :=
  turn_eq_some (fun _ _ => Iff.rfl) fun _ _ => Option.some_inj

theorem map_eq_some {reply : Reply β} :
    p.map f state = some reply ↔
      (∃ value after, p state = some (.success value, after) ∧
        (.success (f value), after) = reply) ∨
      ∃ expected after, p state = some (.failure expected, after) ∧
        (.failure expected, after) = reply :=
  turn_eq_some (fun _ _ => Option.some_inj) fun _ _ => Option.some_inj

theorem recognize_eq_some {reply : Reply String} :
    p.recognize state = some reply ↔
      (∃ value after, p state = some (.success value, after) ∧
        (.success ((state.between? after).getD ""), after) = reply) ∨
      ∃ expected after, p state = some (.failure expected, after) ∧
        (.failure expected, after) = reply :=
  turn_eq_some (fun _ _ => Option.some_inj) fun _ _ => Option.some_inj

/-- The second alternative has run when the first has failed without moving the cursor. -/
theorem orElse_eq_some {reply : Reply α} :
    p.orElse p' state = some reply ↔
      (∃ value after, p state = some (.success value, after) ∧
        (.success value, after) = reply) ∨
      ∃ expected middle, p state = some (.failure expected, middle) ∧
        if middle.cursor = state.cursor then
          (∃ value after, p' middle = some (.success value, after) ∧
            (.success value, after) = reply) ∨
          ∃ expected' after, p' middle = some (.failure expected', after) ∧
            (.failure (if after.cursor = state.cursor then expected.merge expected'
              else expected'), after) = reply
        else (.failure expected, middle) = reply := by
  refine turn_eq_some (fun _ _ => Option.some_inj) fun expected middle => ?_
  dsimp only
  split
  · refine turn_eq_some (fun _ _ => Option.some_inj) fun expected' after => ?_
    dsimp only
    split <;> exact Option.some_inj
  · exact Option.some_inj

theorem choiceFrom_cons_eq_some {start : Nat} {parsers : List (Parser α)} {expected : Expected}
    {reply : Reply α} :
    choiceFrom start (p :: parsers) expected state = some reply ↔
      (∃ value after, p state = some (.success value, after) ∧
        (.success value, after) = reply) ∨
      ∃ expected' after, p state = some (.failure expected', after) ∧
        if after.cursor = start then
          choiceFrom start parsers (expected.merge expected') after = some reply
        else (.failure expected', after) = reply :=
  turn_eq_some (fun _ _ => Option.some_inj) fun _ _ => by
    dsimp only
    split
    · exact Iff.rfl
    · exact Option.some_inj

/-- The runs of a choice, told one after the other; each alternative names one. -/
def Chooses {γ : Type 1} (run : γ → State → Reply α → Prop) (start : Nat) :
    List γ → Expected → State → Reply α → Prop
  | [], expected, state, reply => (.failure expected, state) = reply
  | first :: others, expected, state, reply =>
    (∃ value after, run first state (.success value, after) ∧ (.success value, after) = reply) ∨
    ∃ expected' after, run first state (.failure expected', after) ∧
      if after.cursor = start then
        Chooses run start others (expected.merge expected') after reply
      else (.failure expected', after) = reply

theorem choiceFrom_eq_some {γ : Type 1} {parser : γ → Parser α} {start : Nat}
    {alternatives : List γ} {expected : Expected} {reply : Reply α} :
    choiceFrom start (alternatives.map parser) expected state = some reply ↔
      Chooses (fun g state reply => parser g state = some reply) start alternatives expected state
        reply := by
  induction alternatives generalizing state expected with
  | nil => exact Option.some_inj
  | cons first others ih =>
    rw [List.map_cons, choiceFrom_cons_eq_some]
    simp only [ih, Chooses]

theorem attempt_eq_some {reply : Reply α} :
    p.attempt state = some reply ↔
      (∃ value after, p state = some (.success value, after) ∧
        (.success value, after) = reply) ∨
      ∃ expected after, p state = some (.failure expected, after) ∧
        (.failure expected, after.rewind state.cursor) = reply :=
  turn_eq_some (fun _ _ => Option.some_inj) fun _ _ => Option.some_inj

/-- What goes on from an attempt goes on from a run that is given back when it fails. -/
theorem attempt_turn_eq_some {next : Reply α → Option (Reply β)} {reply : Reply β}
    {onSuccess : α → State → Prop} {onFailure : Expected → State → Prop}
    (success : ∀ value after, next (.success value, after) = some reply ↔ onSuccess value after)
    (failure : ∀ expected after,
      next (.failure expected, after.rewind state.cursor) = some reply ↔
        onFailure expected after) :
    (p.attempt state >>= next) = some reply ↔
      (∃ value after, p state = some (.success value, after) ∧ onSuccess value after) ∨
      ∃ expected after, p state = some (.failure expected, after) ∧
        onFailure expected after := by
  simp only [← success, ← failure]
  rcases run : p state with _ | ⟨expected | value, after⟩ <;> simp [attempt, run, and_assoc]

theorem lookAhead_eq_some {reply : Reply α} :
    p.lookAhead state = some reply ↔
      (∃ value after, p state = some (.success value, after) ∧
        (.success value, after.rewind state.cursor) = reply) ∨
      ∃ expected after, p state = some (.failure expected, after) ∧
        (.failure expected, after) = reply :=
  turn_eq_some (fun _ _ => Option.some_inj) fun _ _ => Option.some_inj

theorem notFollowedBy_eq_some {reply : Reply Unit} :
    p.notFollowedBy state = some reply ↔
      (∃ value after, p state = some (.success value, after) ∧
        (.failure .nothing, after.rewind state.cursor) = reply) ∨
      ∃ expected after, p state = some (.failure expected, after) ∧
        (.success (), after.rewind state.cursor) = reply :=
  turn_eq_some (fun _ _ => Option.some_inj) fun _ _ => Option.some_inj

theorem label_eq_some {text : String} {reply : Reply α} :
    p.label text state = some reply ↔
      (∃ value after, p state = some (.success value, after) ∧
        (.success value, after) = reply) ∨
      ∃ expected after, p state = some (.failure expected, after) ∧
        (.failure (if after.cursor = state.cursor then .label text else expected), after) =
          reply :=
  turn_eq_some (fun _ _ => Option.some_inj) fun _ _ => by
    dsimp only
    split <;> exact Option.some_inj

theorem option_eq_some {default : α} {reply : Reply α} :
    p.option default state = some reply ↔
      (∃ value after, p state = some (.success value, after) ∧
        (.success value, after) = reply) ∨
      ∃ expected after, p state = some (.failure expected, after) ∧
        (if after.cursor = state.cursor then .success default else .failure expected, after) =
          reply :=
  turn_eq_some (fun _ _ => Option.some_inj) fun _ _ => by
    dsimp only
    split <;> exact Option.some_inj

theorem optional_eq_some {reply : Reply Unit} :
    p.optional state = some reply ↔
      (∃ value after, p state = some (.success value, after) ∧
        (.success (), after) = reply) ∨
      ∃ expected after, p state = some (.failure expected, after) ∧
        (if after.cursor = state.cursor then .success () else .failure expected, after) =
          reply :=
  turn_eq_some (fun _ _ => Option.some_inj) fun _ _ => by
    dsimp only
    split <;> exact Option.some_inj

end CommittedChoice.Parser
