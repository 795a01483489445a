import CommittedChoice.Proofs.Labels.Labelled

/-! Choice is associative and flat. Lists of alternatives are the same when they go on alike from
whatever has been gathered before them; the two choice combinators are the same as the lists of
their alternatives, and so is a tree of choices as the list of its leaves. -/
namespace CommittedChoice.Parser

variable {α : Type} {start : Nat} {state : State}

/-- A success and a failure that has moved the cursor are final; after a clean failure the others
try. -/
def resume (start : Nat) (others : Expected → Parser α) : Reply α → Option (Reply α)
  | (.success value, after) => some (.success value, after)
  | (.failure expected, after) =>
    if after.cursor = start then others expected after else some (.failure expected, after)

/-- Others that agree where they may try are resumed alike. -/
theorem resume_congr {others others' : Expected → Parser α}
    (same : ∀ expected after, after.cursor = start →
      others expected after = others' expected after) :
    resume start others = resume start others' := by
  funext reply
  obtain ⟨expected | value, after⟩ := reply
  · by_cases clean : after.cursor = start
    · simp only [resume, clean, same]
    · simp only [resume, clean, if_false]
  · rfl

theorem resume_resume (others others' : Expected → Parser α) (ended : Option (Reply α)) :
    (ended >>= resume start others >>= resume start others') =
      (ended >>= resume start fun expected after =>
        others expected after >>= resume start others') := by
  rcases ended with _ | ⟨expected | value, after⟩
  · rfl
  · by_cases clean : after.cursor = start <;> simp [resume, clean]
  · rfl

theorem choiceFrom_cons (p : Parser α) (parsers : List (Parser α)) (expected : Expected) :
    choiceFrom start (p :: parsers) expected state = (p state >>= resume start fun expected' =>
      choiceFrom start parsers (expected.merge expected')) := rfl

theorem orElse_eq_resume (p q : Parser α) :
    p.orElse q state = (p state >>= resume state.cursor fun expected middle =>
      q middle >>= resume state.cursor fun expected' =>
        fail (expected.merge expected')) := rfl

/-- The alternatives that have been tried hand over to the others where all have failed cleanly. -/
theorem choiceFrom_append (parsers others : List (Parser α)) (expected : Expected)
    (here : state.cursor = start) :
    choiceFrom start (parsers ++ others) expected state =
      (choiceFrom start parsers expected state >>= resume start (choiceFrom start others)) := by
  induction parsers generalizing state expected with
  | nil =>
    -- An empty list fails where it stands, which is clean only at the start of the choice.
    simp [choiceFrom, resume, here]
  | cons p parsers ih =>
    rw [List.cons_append, choiceFrom_cons, choiceFrom_cons, resume_resume,
      resume_congr fun expected' after clean => ih (expected.merge expected') clean]

/-- Labels gathered before the alternatives can be merged in after them. -/
theorem choiceFrom_merge (parsers : List (Parser α)) (before expected : Expected)
    (here : state.cursor = start) :
    choiceFrom start parsers (before.merge expected) state =
      (choiceFrom start parsers expected state >>= resume start fun gathered =>
        fail (before.merge gathered)) := by
  induction parsers generalizing state expected with
  | nil => simp [choiceFrom, resume, here, fail]
  | cons p parsers ih =>
    -- A failure that has moved the cursor is final on both sides and drops the labels before it.
    rw [choiceFrom_cons, choiceFrom_cons, resume_resume]
    refine congrArg (p state >>= ·) (resume_congr fun expected' after clean => ?_)
    rw [Expected.merge_assoc, ih _ clean]

/-- Two lists of alternatives that go on alike. -/
def SameChoice (parsers parsers' : List (Parser α)) : Prop :=
  ∀ expected state, choiceFrom state.cursor parsers expected state =
    choiceFrom state.cursor parsers' expected state

namespace SameChoice

variable {p q : Parser α} {parsers parsers' others others' : List (Parser α)}

theorem refl (parsers : List (Parser α)) : SameChoice parsers parsers := fun _ _ => rfl

theorem trans {parsers'' : List (Parser α)} (first : SameChoice parsers parsers')
    (second : SameChoice parsers' parsers'') : SameChoice parsers parsers'' :=
  fun expected state => (first expected state).trans (second expected state)

theorem append (first : SameChoice parsers parsers') (second : SameChoice others others') :
    SameChoice (parsers ++ others) (parsers' ++ others') := by
  intro expected state
  rw [choiceFrom_append _ _ _ rfl, choiceFrom_append _ _ _ rfl, first expected state]
  refine congrArg (_ >>= ·) (resume_congr fun gathered after clean => ?_)
  rw [← clean]
  exact second gathered after

theorem orElse (p q : Parser α) : SameChoice [p.orElse q] [p, q] := by
  intro expected state
  rw [choiceFrom_cons, choiceFrom_cons, orElse_eq_resume]
  refine (resume_resume _ _ (p state)).trans ?_
  refine congrArg (p state >>= ·) (resume_congr fun first middle clean => ?_)
  refine (resume_resume _ _ (q middle)).trans ?_
  refine congrArg (q middle >>= ·) (resume_congr fun second after clean' => ?_)
  simp [fail, resume, clean', choiceFrom, Expected.merge_assoc]

theorem choice (parsers : List (Parser α)) : SameChoice [choice parsers] parsers := by
  intro expected state
  rw [choiceFrom_cons, Parser.choice, ← expected.merge_nothing,
    choiceFrom_merge parsers expected .nothing rfl]
  rfl

/-- Alternatives are flattened one by one. -/
theorem flatten {n : Nat} {p : Fin n → Parser α} {parsers : Fin n → List (Parser α)}
    (each : ∀ i, SameChoice [p i] (parsers i)) :
    SameChoice (List.ofFn p) (List.ofFn parsers).flatten := by
  induction n with
  | zero => simpa using refl []
  | succ n ih =>
    rw [List.ofFn_succ, List.ofFn_succ, List.flatten_cons]
    exact (each 0).append (ih fun i => each i.succ)

/-- A parser is a choice of itself, if what it expects when it fails is listed once. -/
theorem choice_singleton (makes : p.Makes) (state : State) : Parser.choice [p] state = p state := by
  rw [Parser.choice, choiceFrom_cons]
  rcases run : p state with _ | ⟨expected | value, after⟩
  · rfl
  · have distinct := (makes state expected after run).nodup
    simp [resume, choiceFrom, Expected.nothing_merge distinct]
  · rfl

theorem eq_choice (same : SameChoice [p] parsers) (makes : p.Makes) (state : State) :
    p state = Parser.choice parsers state := by
  rw [← choice_singleton makes state]
  exact same .nothing state

end SameChoice

end CommittedChoice.Parser
