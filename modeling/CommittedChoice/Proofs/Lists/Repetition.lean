import CommittedChoice.Grammar.Characters
import CommittedChoice.Grammar.Limit

/-! One grammar is run again and again until it fails. A repetition that gives the failed run back
and a count that gives nothing back are read off the same streak of matches. -/
namespace CommittedChoice

variable {ι : Type} {τ : ι → Type} {α : Type}

/-- The runs that have succeeded, each with the state it left, and the run that has failed. -/
structure Streak (α : Type) where
  matched : List (α × State)
  expected : Expected
  left : State

/-- The same run repeated, each time from the state that the one before it left. -/
inductive Repeats (run : State → Reply α → Prop) : State → Streak α → Prop where
  | fails {start left : State} {expected : Expected}
      (failed : run start (.failure expected, left)) : Repeats run start ⟨[], expected, left⟩
  | succeeds {start middle left : State} {value : α} {matched : List (α × State)}
      {expected : Expected} (succeeded : run start (.success value, middle))
      (others : Repeats run middle ⟨matched, expected, left⟩) :
      Repeats run start ⟨(value, middle) :: matched, expected, left⟩

namespace Streak

variable (streak : Streak α) (start : State)

def values : List α := streak.matched.map Prod.fst

def size : Nat := streak.matched.length

/-- The state that so many matches have left, or all of them when there are fewer. -/
def after (times : Nat) : State :=
  ((streak.matched.take times).getLast?.map Prod.snd).getD start

/-- A repetition keeps the place after the last match, and the marker of the run that has failed. -/
def answer : Reply (List α) :=
  (.success streak.values, streak.left.rewind (streak.after start streak.size).cursor)

variable {matched : List (α × State)} {expected : Expected} {left middle : State} {value : α}

theorem after_cons (times : Nat) :
    after ⟨(value, middle) :: matched, expected, left⟩ start (times + 1) =
      after ⟨matched, expected, left⟩ middle times :=
  getLast?_cons_getD Prod.snd (value, middle) (matched.take times) start

end Streak

variable {run : State → Reply α → Prop} {start : State} {streak : Streak α}

namespace Repeats

theorem chain_take (repeats : Repeats run start streak) (times : Nat) :
    Chain (Succeeds run) start (streak.values.take times) (streak.after start times) := by
  induction repeats generalizing times with
  | fails => simpa [Streak.values, Streak.after] using Chain.nil
  | succeeds succeeded _ ih =>
    cases times with
    | zero => exact .nil
    | succ times =>
      rw [Streak.after_cons]
      exact .cons succeeded (ih times)

theorem failed (repeats : Repeats run start streak) :
    run (streak.after start streak.size) (.failure streak.expected, streak.left) := by
  induction repeats with
  | fails failed => exact failed
  | succeeds _ _ ih =>
    rw [Streak.size, List.length_cons, Streak.after_cons]
    exact ih

theorem chain (repeats : Repeats run start streak) :
    Chain (Succeeds run) start streak.values (streak.after start streak.size) := by
  have whole : streak.values.take streak.size = streak.values :=
    List.take_of_length_le (Nat.le_of_eq (List.length_map Prod.fst))
  have known := repeats.chain_take streak.size
  rwa [whole] at known

end Repeats

namespace Grammar

variable {rules : Rules τ} {g : Grammar τ α}

section Repeated

variable (repeats : CommittedChoice.Repeats (g.Replies rules) start streak)
include repeats

theorem many_of_repeats : (many g).Replies rules start (streak.answer start) :=
  replies_many.mpr ⟨_, _, repeats.chain, _, _, repeats.failed, rfl⟩

/-- The first run decides whether there is a list at all. -/
theorem many1_of_repeats :
    (0 < streak.size → (many1 g).Replies rules start (streak.answer start)) ∧
      (streak.size = 0 → (many1 g).Replies rules start
        (.failure streak.expected, streak.left.rewind start.cursor)) := by
  cases repeats with
  | fails failed =>
    exact ⟨fun some => absurd some (Nat.lt_irrefl 0),
      fun _ => replies_many1.mpr (.inr ⟨_, _, failed, rfl⟩)⟩
  | succeeds succeeded others =>
    refine ⟨fun _ => ?_, fun none => absurd none (Nat.succ_ne_zero _)⟩
    rw [Streak.answer, Streak.size, List.length_cons, Streak.after_cons]
    exact replies_many1.mpr (.inl ⟨_, _, succeeded, _, _, others.chain, _, _, others.failed, rfl⟩)

theorem count_of_repeats [Stored α] {times : Nat} (room : Reservable α times) :
    (times ≤ streak.size → (count times g).Replies rules start
        (.success (streak.values.take times), streak.after start times)) ∧
      (streak.size < times → (count times g).Replies rules start
        (.failure streak.expected, streak.left)) := by
  have size : streak.values.length = streak.size := List.length_map Prod.fst
  constructor
  · intro fewer
    have whole : (streak.values.take times).length = times :=
      List.length_take_of_le (size ▸ fewer)
    have counted := replies_count (whole.symm ▸ room) (repeats.chain_take times)
    rwa [whole] at counted
  · intro more
    exact replies_count_of_failure room repeats.chain repeats.failed (size ▸ more)

end Repeated

/-- Three loops, one streak. Nothing is assumed of the grammar but that it fails at last: the run
that fails may have consumed, which a repetition gives back and a count does not. A count for whose
list there is no room has no reply, whatever the streak. -/
theorem loops_of_repeats (rules : Rules τ) (g : Grammar τ α) {start : State} {streak : Streak α}
    (repeats : CommittedChoice.Repeats (g.Replies rules) start streak) :
    (many g).Replies rules start (streak.answer start) ∧
      ((0 < streak.size → (many1 g).Replies rules start (streak.answer start)) ∧
        (streak.size = 0 → (many1 g).Replies rules start
          (.failure streak.expected, streak.left.rewind start.cursor))) ∧
      ∀ [Stored α] (times : Nat),
        (Reservable α times →
          (times ≤ streak.size → (count times g).Replies rules start
            (.success (streak.values.take times), streak.after start times)) ∧
          (streak.size < times → (count times g).Replies rules start
            (.failure streak.expected, streak.left))) ∧
        (¬Reservable α times → ∀ reply, ¬(count times g).Replies rules start reply) :=
  ⟨many_of_repeats repeats, many1_of_repeats repeats, fun _ =>
    ⟨count_of_repeats repeats, fun large _ replies => large replies.room⟩⟩

/-- The third run has consumed a letter when it fails. -/
theorem loops_of_two_pieces :
    let piece : Grammar (fun _ : Empty => Unit) String := .literal "éb"
    let first : State := ⟨"ébébéx", 3, some 2⟩
    let second : State := ⟨"ébébéx", 6, some 5⟩
    let left : State := ⟨"ébébéx", 8, some 6⟩
    let streak : Streak String := ⟨[("éb", first), ("éb", second)], .literal "éb", left⟩
    CommittedChoice.Repeats (piece.Replies .empty) (.start "ébébéx") streak ∧
      (many piece).Replies .empty (.start "ébébéx")
        (.success ["éb", "éb"], ⟨"ébébéx", 6, some 6⟩) ∧
      (many1 piece).Replies .empty (.start "ébébéx")
        (.success ["éb", "éb"], ⟨"ébébéx", 6, some 6⟩) ∧
      (count 1 piece).Replies .empty (.start "ébébéx") (.success ["éb"], first) ∧
      (count 3 piece).Replies .empty (.start "ébébéx") (.failure (.literal "éb"), left) := by
  intro piece first second left streak
  have repeats : CommittedChoice.Repeats (piece.Replies .empty) (.start "ébébéx") streak :=
    .succeeds ⟨1, by decide⟩ (.succeeds ⟨1, by decide⟩ (.fails ⟨1, by decide⟩))
  obtain ⟨many, ⟨many1, _⟩, count⟩ := loops_of_repeats .empty piece repeats
  exact ⟨repeats, many, many1 (by decide), ((count 1).1 (by decide)).1 (by decide),
    ((count 3).1 (by decide)).2 (by decide)⟩

/-- The first run would fail, and is not reached. -/
theorem large_count_breaks_streak :
    let letter : Grammar (fun _ : Empty => Unit) Char := .char 'a'
    let state : State := .start "b"
    let streak : Streak Char := ⟨[], .label "\"a\"", state⟩
    CommittedChoice.Repeats (letter.Replies .empty) state streak ∧
      streak.size < storageLimit ∧
      ¬(count storageLimit letter).Replies .empty state
        (.failure streak.expected, streak.left) := by
  intro letter state streak
  have repeats : CommittedChoice.Repeats (letter.Replies .empty) state streak :=
    .fails ⟨0, by decide⟩
  have large : ¬Reservable Char storageLimit := by decide
  exact ⟨repeats, by decide, fun replies => large replies.room⟩

end Grammar

end CommittedChoice
