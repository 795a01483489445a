import CommittedChoice.Parser.Inversion

/-! Two parsers agree when their runs differ in nothing but what the failures expected. No
combinator looks at that: those that decide on a failure decide on its cursor, and so all of them
keep agreement. -/
namespace CommittedChoice

variable {α β γ : Type}

/-- A reply without what was expected. -/
def unexplained (reply : Reply α) : Outcome Unit α × State :=
  (reply.1.mapFailure fun _ => (), reply.2)

namespace Parser

def Agrees (p p' : Parser α) : Prop :=
  ∀ state, (p state).map unexplained = (p' state).map unexplained

/-- Computations agree when what goes on from a success is agreed on, and what goes on from a
failure is, whatever either of the two failures expected. -/
theorem step_unexplained {x y : Option (Reply α)} {f g : Reply α → Option (Reply β)}
    (first : x.map unexplained = y.map unexplained)
    (success : ∀ value after, (f (.success value, after)).map unexplained =
      (g (.success value, after)).map unexplained)
    (failure : ∀ expected expected' after, (f (.failure expected, after)).map unexplained =
      (g (.failure expected', after)).map unexplained) :
    (x >>= f).map unexplained = (y >>= g).map unexplained := by
  rcases x with _ | ⟨expected | value, after⟩ <;>
    rcases y with _ | ⟨expected' | value', after'⟩ <;>
    simp only [Option.map_none, Option.map_some, unexplained, Outcome.mapFailure, Option.some.injEq,
      Prod.mk.injEq, Outcome.success.injEq, reduceCtorEq, false_and, true_and] at first
  · rfl
  · subst first
    exact failure expected expected' after
  · obtain ⟨rfl, rfl⟩ := first
    exact success value after

namespace Agrees

variable {p p' : Parser α} {q q' : Parser β}

theorem refl (p : Parser α) : p.Agrees p := fun _ => rfl

theorem symm (agrees : p.Agrees p') : p'.Agrees p := fun state => (agrees state).symm

theorem trans {p'' : Parser α} (first : p.Agrees p') (second : p'.Agrees p'') : p.Agrees p'' :=
  fun state => (first state).trans (second state)

theorem fail (expected expected' : Expected) :
    (fail expected : Parser α).Agrees (fail expected') := fun _ => rfl

theorem bind {k k' : α → Parser β} (first : p.Agrees p')
    (next : ∀ value, (k value).Agrees (k' value)) : (p.bind k).Agrees (p'.bind k') := fun state =>
  step_unexplained (first state) (fun value after => next value after) fun _ _ _ => rfl

theorem map (f : α → β) (first : p.Agrees p') : (p.map f).Agrees (p'.map f) :=
  first.bind fun value => refl (.pure (f value))

theorem seqRight (first : p.Agrees p') (second : q.Agrees q') :
    (p.seqRight q).Agrees (p'.seqRight q') :=
  first.bind fun _ => second

theorem seqLeft (first : p.Agrees p') (second : q.Agrees q') :
    (p.seqLeft q).Agrees (p'.seqLeft q') :=
  first.bind fun value => second.map fun _ => value

theorem seqPair (first : p.Agrees p') (second : q.Agrees q') :
    (p.seqPair q).Agrees (p'.seqPair q') :=
  first.bind fun value => second.map fun other => (value, other)

theorem between {r r' : Parser γ} (opening : p.Agrees p') (closing : q.Agrees q')
    (content : r.Agrees r') : (between p q r).Agrees (between p' q' r') :=
  opening.seqRight (content.seqLeft closing)

theorem recognize (first : p.Agrees p') : p.recognize.Agrees p'.recognize := fun state =>
  step_unexplained (first state) (fun _ _ => rfl) fun _ _ _ => rfl

theorem attempt (first : p.Agrees p') : p.attempt.Agrees p'.attempt := fun state =>
  step_unexplained (first state) (fun _ _ => rfl) fun _ _ _ => rfl

theorem lookAhead (first : p.Agrees p') : p.lookAhead.Agrees p'.lookAhead := fun state =>
  step_unexplained (first state) (fun _ _ => rfl) fun _ _ _ => rfl

theorem notFollowedBy (first : p.Agrees p') : p.notFollowedBy.Agrees p'.notFollowedBy :=
  fun state => step_unexplained (first state) (fun _ _ => rfl) fun _ _ _ => rfl

/-- Whether a failure is clean is agreed on, so that what is done with it is too. -/
theorem clean {state after : State} {x x' y y' : Option (Reply α)}
    (kept : x.map unexplained = x'.map unexplained)
    (passed : y.map unexplained = y'.map unexplained) :
    (if after.cursor = state.cursor then x else y).map unexplained =
      (if after.cursor = state.cursor then x' else y').map unexplained := by
  split
  · exact kept
  · exact passed

theorem orElse {q q' : Parser α} (first : p.Agrees p') (second : q.Agrees q') :
    (p.orElse q).Agrees (p'.orElse q') := fun state =>
  step_unexplained (first state) (fun _ _ => rfl) fun _ _ middle =>
    clean (step_unexplained (second middle) (fun _ _ => rfl) fun _ _ _ => clean rfl rfl) rfl

/-- What a choice has gathered so far is not looked at either. -/
theorem choiceFrom (start : Nat) {n : Nat} {ps ps' : Fin n → Parser α}
    (each : ∀ i, (ps i).Agrees (ps' i)) (expected expected' : Expected) :
    (choiceFrom start (List.ofFn ps) expected).Agrees
      (choiceFrom start (List.ofFn ps') expected') := by
  induction n generalizing expected expected' with
  | zero => exact fun _ => rfl
  | succ n others =>
    rw [List.ofFn_succ, List.ofFn_succ]
    intro state
    refine step_unexplained (each 0 state) (fun _ _ => rfl) fun first first' after => ?_
    dsimp only
    split
    · exact others (fun i => each i.succ) _ _ after
    · rfl

theorem choice {n : Nat} {ps ps' : Fin n → Parser α} (each : ∀ i, (ps i).Agrees (ps' i)) :
    (choice (List.ofFn ps)).Agrees (choice (List.ofFn ps')) :=
  fun state => choiceFrom state.cursor each .nothing .nothing state

/-- A label on one side only. -/
theorem label_left (text : String) (first : p.Agrees p') : (p.label text).Agrees p' := by
  intro state
  refine Eq.trans ?_ (congrArg (Option.map unexplained) (Option.bind_fun_some (p' state)))
  refine step_unexplained (first state) (fun _ _ => rfl) fun _ _ after => ?_
  dsimp only
  split <;> rfl

theorem option (default : α) (first : p.Agrees p') :
    (p.option default).Agrees (p'.option default) := fun state =>
  step_unexplained (first state) (fun _ _ => rfl) fun _ _ _ => clean rfl rfl

theorem optional (first : p.Agrees p') : p.optional.Agrees p'.optional := fun state =>
  step_unexplained (first state) (fun _ _ => rfl) fun _ _ _ => clean rfl rfl

theorem gather (first : p.Agrees p') (limit : Nat) (taken : List α) :
    (gather p limit taken).Agrees (gather p' limit taken) := by
  induction limit generalizing taken with
  | zero => exact fun _ => rfl
  | succ limit rounds =>
    exact fun state => step_unexplained (first.attempt state)
      (fun value after => rounds (value :: taken) after) fun _ _ _ => rfl

theorem many (first : p.Agrees p') (limit : Nat) : (many limit p).Agrees (many limit p') :=
  first.gather limit []

theorem many1 (first : p.Agrees p') (limit : Nat) : (many1 limit p).Agrees (many1 limit p') :=
  first.attempt.bind fun value => first.gather limit [value]

theorem gatherTill (first : p.Agrees p') (terminator : q.Agrees q') (limit : Nat)
    (taken : List α) : (gatherTill p q limit taken).Agrees (gatherTill p' q' limit taken) := by
  induction limit generalizing taken with
  | zero => exact fun _ => rfl
  | succ limit rounds =>
    refine fun state => step_unexplained (terminator state) (fun _ _ => rfl) fun _ _ middle => ?_
    refine clean (step_unexplained (first middle) ?_ fun _ _ _ => clean rfl rfl) rfl
    exact fun value after => rounds (value :: taken) after

theorem manyTill (first : p.Agrees p') (terminator : q.Agrees q') (limit : Nat) :
    (manyTill limit p q).Agrees (manyTill limit p' q') :=
  first.gatherTill terminator limit []

theorem countFrom (first : p.Agrees p') (times : Nat) (taken : List α) :
    (countFrom p times taken).Agrees (countFrom p' times taken) := by
  induction times generalizing taken with
  | zero => exact fun _ => rfl
  | succ times rounds =>
    exact fun state => step_unexplained (first state)
      (fun value after => rounds (value :: taken) after) fun _ _ _ => rfl

theorem count [Stored α] (times : Nat) (first : p.Agrees p') :
    (count times p).Agrees (count times p') := by
  unfold Parser.count
  split
  · exact first.countFrom times []
  · exact .refl _

theorem gatherSeparated (item : p.Agrees p') (separator : q.Agrees q') (limit : Nat)
    (taken : List α) :
    (gatherSeparated p q limit taken).Agrees (gatherSeparated p' q' limit taken) := by
  rw [gatherSeparated_eq, gatherSeparated_eq]
  exact (separator.seqRight item).gather limit taken

theorem sepBy (item : p.Agrees p') (separator : q.Agrees q') (limit : Nat) :
    (sepBy limit p q).Agrees (sepBy limit p' q') := fun state =>
  step_unexplained (item.attempt state)
    (fun value after => item.gatherSeparated separator limit [value] after) fun _ _ _ => rfl

theorem sepBy1 (item : p.Agrees p') (separator : q.Agrees q') (limit : Nat) :
    (sepBy1 limit p q).Agrees (sepBy1 limit p' q') :=
  item.attempt.bind fun value => item.gatherSeparated separator limit [value]

theorem gatherSepEnd (item : p.Agrees p') (separator : q.Agrees q') (limit : Nat)
    (taken : List α) : (gatherSepEnd p q limit taken).Agrees (gatherSepEnd p' q' limit taken) := by
  induction limit generalizing taken with
  | zero => exact fun _ => rfl
  | succ limit rounds =>
    refine fun state => step_unexplained (separator.attempt state) (fun _ middle => ?_)
      fun _ _ _ => rfl
    exact step_unexplained (item.attempt middle)
      (fun value after => rounds (value :: taken) after) fun _ _ _ => rfl

theorem sepEndBy (item : p.Agrees p') (separator : q.Agrees q') (limit : Nat) :
    (sepEndBy limit p q).Agrees (sepEndBy limit p' q') := fun state =>
  step_unexplained (item.attempt state)
    (fun value after => item.gatherSepEnd separator limit [value] after) fun _ _ _ => rfl

theorem sepEndBy1 (item : p.Agrees p') (separator : q.Agrees q') (limit : Nat) :
    (sepEndBy1 limit p q).Agrees (sepEndBy1 limit p' q') :=
  item.attempt.bind fun value => item.gatherSepEnd separator limit [value]

end Agrees

end Parser

end CommittedChoice
