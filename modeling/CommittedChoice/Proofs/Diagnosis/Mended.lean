import CommittedChoice.Proofs.Diagnosis.Events
import CommittedChoice.Proofs.Locality.Loops

/-! A parser without one of the failures of another. It mends that one when it makes every run
that does not take the failure anywhere, in an abandoned branch either; what it does in place of the
failure is open. All combinators keep this, the failures being those in their logs. -/
namespace CommittedChoice

/-- None of the events is the failure. -/
def Spared (expected : Expected) (events : List Event) : Prop :=
  ∀ event ∈ events, event.act ≠ .refuse expected

namespace Parser

variable {α β γ : Type} {p p' : Parser α} {q q' : Parser β} {k k' : α → Parser β}
  {log log' : Log} {next : α → Log} {expected : Expected} {n : Nat}

def Mends (expected : Expected) (p' p : Parser α) (log : Log) : Prop :=
  ∀ state reply, p state = some reply → Spared expected (log state) → p' state = some reply

namespace Mends

theorem refl (p : Parser α) (log : Log) : Mends expected p p log := fun _ _ run _ => run

/-- What is made of a reply stays the same. -/
theorem turn {next : State → Reply α → Option (Reply β)} (first : Mends expected p' p log) :
    Mends expected (fun state => p' state >>= next state) (fun state => p state >>= next state)
      log := by
  intro state reply run spared
  obtain ⟨middle, ran, rest⟩ := Option.bind_eq_some_iff.mp run
  exact Option.bind_eq_some_iff.mpr ⟨middle, first state middle ran spared, rest⟩

theorem map (f : α → β) (first : Mends expected p' p log) :
    Mends expected (p'.map f) (p.map f) log :=
  first.turn

theorem label (name : String) (first : Mends expected p' p log) :
    Mends expected (p'.label name) (p.label name) log :=
  first.turn

theorem attempt (first : Mends expected p' p log) : Mends expected p'.attempt p.attempt log :=
  first.turn

theorem bind (first : Mends expected p' p log)
    (others : ∀ value, Mends expected (k' value) (k value) (next value)) :
    Mends expected (p'.bind k') (p.bind k) (.bind p log next) := by
  intro state reply run spared
  obtain ⟨⟨_ | value, middle⟩, ran, rest⟩ := Option.bind_eq_some_iff.mp run
  · have ran' := first state _ ran fun event member => spared event (List.mem_append_left _ member)
    exact Option.bind_eq_some_iff.mpr ⟨_, ran', rest⟩
  · rw [Log.bind, ran] at spared
    have ran' := first state _ ran fun event member => spared event (List.mem_append_left _ member)
    have rest' := others value middle reply rest
      fun event member => spared event (List.mem_append_right _ member)
    exact Option.bind_eq_some_iff.mpr ⟨_, ran', rest'⟩

theorem seqRight (first : Mends expected p' p log) (second : Mends expected q' q log') :
    Mends expected (p'.seqRight q') (p.seqRight q) (.bind p log fun _ => log') :=
  first.bind (k := fun _ => q) fun _ => second

theorem seqLeft (first : Mends expected p' p log) (second : Mends expected q' q log') :
    Mends expected (p'.seqLeft q') (p.seqLeft q) (.bind p log fun _ => log') :=
  first.bind (k := fun value => q.map fun _ => value) fun _ => second.map _

theorem seqPair (first : Mends expected p' p log) (second : Mends expected q' q log') :
    Mends expected (p'.seqPair q') (p.seqPair q) (.bind p log fun _ => log') :=
  first.bind (k := fun value => q.map fun other => (value, other)) fun _ => second.map _

theorem between {r r' : Parser γ} {content : Log} (opening : Mends expected p' p log)
    (closing : Mends expected q' q log') (inner : Mends expected r' r content) :
    Mends expected (between p' q' r') (between p q r)
      (.bind p log fun _ => .bind r content fun _ => log') :=
  opening.bind (k := fun _ => r.seqLeft q) fun _ => inner.seqLeft closing

/-- What runs after a clean failure runs on both sides, or on neither. -/
theorem afterClean {second second' : Parser β} {start : Nat} {expected' : Expected}
    {middle : State} {reply : Reply α} {next : Reply β → Option (Reply α)}
    {consumed : Option (Reply α)} (other : Mends expected second' second log)
    (spared : Spared expected
      (Log.afterClean start log (some (.failure expected', middle) : Option (Reply α))))
    (rest : (if middle.cursor = start then second middle >>= next else consumed) = some reply) :
    (if middle.cursor = start then second' middle >>= next else consumed) = some reply := by
  by_cases clean : middle.cursor = start
  · rw [if_pos clean] at rest ⊢
    rw [Log.afterClean, if_pos clean] at spared
    obtain ⟨last, ran, rest'⟩ := Option.bind_eq_some_iff.mp rest
    exact Option.bind_eq_some_iff.mpr ⟨last, other middle last ran spared, rest'⟩
  · rw [if_neg clean] at rest ⊢
    exact rest

theorem orElse {second second' : Parser α} (first : Mends expected p' p log)
    (other : Mends expected second' second log') :
    Mends expected (p'.orElse second') (p.orElse second) (.orElse p log log') := by
  intro state reply run spared
  obtain ⟨⟨expected' | value, middle⟩, ran, rest⟩ := Option.bind_eq_some_iff.mp run
  all_goals
    have ran' := first state _ ran fun event member => spared event (List.mem_append_left _ member)
    refine Option.bind_eq_some_iff.mpr ⟨_, ran', ?_⟩
  · rw [Log.orElse, ran] at spared
    exact other.afterClean (fun event member => spared event (List.mem_append_right _ member)) rest
  · exact rest

theorem choiceFrom (start : Nat) {ps ps' : Fin n → Parser α} {logs : Fin n → Log}
    (each : ∀ i, Mends expected (ps' i) (ps i) (logs i)) (labels : Expected) :
    Mends expected (choiceFrom start (List.ofFn ps') labels)
      (choiceFrom start (List.ofFn ps) labels)
      (.choiceFrom start (List.ofFn fun i => (ps i, logs i))) := by
  induction n generalizing labels with
  | zero => simpa using refl _ _
  | succ n others =>
    rw [List.ofFn_succ, List.ofFn_succ, List.ofFn_succ]
    intro state reply run spared
    obtain ⟨⟨expected' | value, middle⟩, ran, rest⟩ := Option.bind_eq_some_iff.mp run
    all_goals
      have ran' := each 0 state _ ran
        fun event member => spared event (List.mem_append_left _ member)
      refine Option.bind_eq_some_iff.mpr ⟨_, ran', ?_⟩
    · rw [Log.choiceFrom, ran] at spared
      have spared' := fun event member => spared event (List.mem_append_right _ member)
      dsimp only [Log.afterClean] at rest spared' ⊢
      split at rest
      next clean =>
        rw [if_pos clean] at spared' ⊢
        exact others (fun i => each i.succ) _ middle reply rest spared'
      next consumed =>
        rw [if_neg consumed]
        exact rest
    · exact rest

theorem choice {ps ps' : Fin n → Parser α} {logs : Fin n → Log}
    (each : ∀ i, Mends expected (ps' i) (ps i) (logs i)) :
    Mends expected (choice (List.ofFn ps')) (choice (List.ofFn ps)) fun state =>
      Log.choiceFrom state.cursor (List.ofFn fun i => (ps i, logs i)) state :=
  fun state => choiceFrom state.cursor each .nothing state

/-- A round that succeeds is followed by what goes on, and a failed one by nothing. -/
theorem attempted (first : Mends expected p' p log)
    (others : ∀ value, Mends expected (k' value) (k value) (next value))
    (failed : Expected → Outcome Expected β) :
    Mends expected
      (fun state => p'.attempt state >>= fun reply => match reply with
        | (.success value, after) => k' value after
        | (.failure expected, after) => some (failed expected, after))
      (fun state => p.attempt state >>= fun reply => match reply with
        | (.success value, after) => k value after
        | (.failure expected, after) => some (failed expected, after)) (.bind p log next) := by
  intro state reply run spared
  obtain ⟨middle, attempted, rest⟩ := Option.bind_eq_some_iff.mp run
  have spared' : Spared expected (log state) :=
    fun event member => spared event (List.mem_append_left _ member)
  refine Option.bind_eq_some_iff.mpr ⟨middle, first.attempt state _ attempted spared', ?_⟩
  rcases attempt_eq_some.mp attempted with ⟨value, after, ran, rfl⟩ | ⟨expected', after, ran, rfl⟩
  · rw [Log.bind, ran] at spared
    exact others value after reply rest
      fun event member => spared event (List.mem_append_right _ member)
  · exact rest

theorem gather (first : Mends expected p' p log) (limit : Nat) (taken : List α) :
    Mends expected (gather p' limit taken) (gather p limit taken) (.rounds p log limit) := by
  induction limit generalizing taken with
  | zero => exact refl _ _
  | succ limit rounds =>
    exact first.attempted (fun value => rounds (value :: taken))
      fun _ => .success taken.reverse

theorem sepBy (item : Mends expected p' p log) (separator : Mends expected q' q log')
    (limit : Nat) : Mends expected (sepBy limit p' q') (sepBy limit p q)
      (.bind p log fun _ => .rounds (q.seqRight p) (.bind q log' fun _ => log) limit) := by
  refine item.attempted (fun value => ?_) fun _ => .success []
  rw [gatherSeparated_eq, gatherSeparated_eq]
  exact (separator.seqRight item).gather limit [value]

end Mends

end Parser

/-- The alternatives of two lists are tried side by side. -/
theorem Grammar.mends_choiceOf {ι : Type} {τ : ι → Type} {α : Type} {expected : Expected}
    {call call' : (name : ι) → Parser (τ name)} {calls : ι → Log} {limit : Nat}
    {alternatives alternatives' : List (Grammar τ α)}
    (same : alternatives'.length = alternatives.length)
    (each : ∀ pair ∈ alternatives'.zip alternatives, Parser.Mends expected
      (pair.1.parser call' limit) (pair.2.parser call limit) (pair.2.events call calls limit)) :
    Parser.Mends expected ((choiceOf alternatives').parser call' limit)
      ((choiceOf alternatives).parser call limit)
      ((choiceOf alternatives).events call calls limit) := by
  have indexed : (choiceOf alternatives').parser call' limit =
      .choice (List.ofFn fun i : Fin alternatives.length =>
        (alternatives'.get (i.cast same.symm)).parser call' limit) :=
    congrArg Parser.choice (List.ext_getElem (by simp [same]) (by simp))
  rw [indexed]
  refine .choice fun i => each (alternatives'.get (i.cast same.symm), alternatives.get i) ?_
  exact List.mem_iff_getElem.mpr ⟨i, by simp [same], by simp⟩

end CommittedChoice
