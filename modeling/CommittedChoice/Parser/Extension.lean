import CommittedChoice.Parser.Separated

/-! One parser extends another when every run that ends in the other ends alike in the first. All
combinators keep extension, and a loop with a higher limit extends the loop with a lower one. -/
namespace CommittedChoice.Parser

def Extends {α : Type} (longer shorter : Parser α) : Prop :=
  ∀ state reply, shorter state = some reply → longer state = some reply

namespace Extends

variable {α β γ : Type} {p p' : Parser α} {q q' : Parser β} {n m : Nat}

theorem refl (p : Parser α) : p.Extends p := fun _ _ ended => ended

/-- Computations that agree where they end still agree after steps that do. -/
theorem step {x y : Option α} {f g : α → Option β} {b : β}
    (first : ∀ a, x = some a → y = some a) (next : ∀ a b, f a = some b → g a = some b)
    (ended : (x >>= f) = some b) : (y >>= g) = some b := by
  cases x with
  | none => cases ended
  | some a =>
    rw [first a rfl]
    exact next a b ended

theorem keep {f : α → Option β} (a : α) (b : β) (ended : f a = some b) : f a = some b := ended

theorem map (f : α → β) (first : p'.Extends p) : (p'.map f).Extends (p.map f) :=
  fun state _ => step (first state) keep

theorem bind {f f' : α → Parser β} (first : p'.Extends p) (next : ∀ v, (f' v).Extends (f v)) :
    (p'.bind f').Extends (p.bind f) := by
  intro state _
  apply step (first state)
  rintro ⟨_ | value, after⟩ reply ended
  · exact ended
  · exact next value after reply ended

theorem seqRight (first : p'.Extends p) (second : q'.Extends q) :
    (p'.seqRight q').Extends (p.seqRight q) := by
  intro state _
  apply step (first state)
  rintro ⟨_ | value, after⟩ reply ended
  · exact ended
  · exact second after reply ended

theorem seqLeft (first : p'.Extends p) (second : q'.Extends q) :
    (p'.seqLeft q').Extends (p.seqLeft q) := by
  intro state _
  apply step (first state)
  rintro ⟨_ | value, middle⟩ reply ended
  · exact ended
  · exact step (second middle) keep ended

theorem seqPair (first : p'.Extends p) (second : q'.Extends q) :
    (p'.seqPair q').Extends (p.seqPair q) := by
  intro state _
  apply step (first state)
  rintro ⟨_ | value, middle⟩ reply ended
  · exact ended
  · exact step (second middle) keep ended

theorem between {r r' : Parser γ} (opening : p'.Extends p) (closing : q'.Extends q)
    (content : r'.Extends r) : (between p' q' r').Extends (between p q r) := by
  intro state _
  apply step (opening state)
  rintro ⟨_ | _, inside⟩ reply ended
  · exact ended
  · refine step (content inside) ?_ ended
    rintro ⟨_ | value, middle⟩ reply ended
    · exact ended
    · exact step (closing middle) keep ended

theorem recognize (first : p'.Extends p) : p'.recognize.Extends p.recognize :=
  fun state _ => step (first state) keep

theorem orElse {q q' : Parser α} (first : p'.Extends p) (second : q'.Extends q) :
    (p'.orElse q').Extends (p.orElse q) := by
  intro state _
  apply step (first state)
  rintro ⟨_ | value, middle⟩ reply ended
  · dsimp only at ended ⊢
    split at ended
    next clean =>
      rw [if_pos clean]
      exact step (second middle) keep ended
    next consumed =>
      rw [if_neg consumed]
      exact ended
  · exact ended

theorem choiceFrom (start : Nat) {ps ps' : Fin n → Parser α}
    (each : ∀ i, (ps' i).Extends (ps i)) (expected : Expected) :
    (choiceFrom start (List.ofFn ps') expected).Extends
      (choiceFrom start (List.ofFn ps) expected) := by
  induction n generalizing expected with
  | zero => simpa using refl _
  | succ n others =>
    rw [List.ofFn_succ, List.ofFn_succ]
    intro state _
    apply step (each 0 state)
    rintro ⟨expected' | value, after⟩ reply ended
    · dsimp only at ended ⊢
      split at ended
      next clean =>
        rw [if_pos clean]
        exact others (fun i => each i.succ) (expected.merge expected') after reply ended
      next consumed =>
        rw [if_neg consumed]
        exact ended
    · exact ended

theorem choice {ps ps' : Fin n → Parser α} (each : ∀ i, (ps' i).Extends (ps i)) :
    (choice (List.ofFn ps')).Extends (choice (List.ofFn ps)) :=
  fun state => choiceFrom state.cursor each .nothing state

theorem attempt (first : p'.Extends p) : p'.attempt.Extends p.attempt :=
  fun state _ => step (first state) keep

theorem lookAhead (first : p'.Extends p) : p'.lookAhead.Extends p.lookAhead :=
  fun state _ => step (first state) keep

theorem notFollowedBy (first : p'.Extends p) : p'.notFollowedBy.Extends p.notFollowedBy :=
  fun state _ => step (first state) keep

theorem label (text : String) (first : p'.Extends p) : (p'.label text).Extends (p.label text) :=
  fun state _ => step (first state) keep

theorem option (default : α) (first : p'.Extends p) :
    (p'.option default).Extends (p.option default) :=
  fun state _ => step (first state) keep

theorem optional (first : p'.Extends p) : p'.optional.Extends p.optional :=
  fun state _ => step (first state) keep

theorem gather (first : p'.Extends p) (more : n ≤ m) (taken : List α) :
    (gather p' m taken).Extends (gather p n taken) := by
  induction n generalizing m taken with
  | zero => intro _ _ ended; cases ended
  | succ n rounds =>
    obtain ⟨m, rfl⟩ : ∃ k, m = k + 1 := ⟨m - 1, by omega⟩
    intro state _
    apply step (first.attempt state)
    rintro ⟨_ | value, after⟩ reply ended
    · exact ended
    · exact rounds (by omega) (value :: taken) after reply ended

theorem many (first : p'.Extends p) (more : n ≤ m) : (many m p').Extends (many n p) :=
  first.gather more []

theorem many1 (first : p'.Extends p) (more : n ≤ m) : (many1 m p').Extends (many1 n p) := by
  intro state _
  apply step (first.attempt state)
  rintro ⟨_ | value, after⟩ reply ended
  · exact ended
  · exact first.gather more [value] after reply ended

theorem gatherTill (first : p'.Extends p) (terminator : q'.Extends q) (more : n ≤ m)
    (taken : List α) : (gatherTill p' q' m taken).Extends (gatherTill p q n taken) := by
  induction n generalizing m taken with
  | zero => intro _ _ ended; cases ended
  | succ n rounds =>
    obtain ⟨m, rfl⟩ : ∃ k, m = k + 1 := ⟨m - 1, by omega⟩
    intro state _
    apply step (terminator state)
    rintro ⟨_ | _, middle⟩ reply ended
    · dsimp only at ended ⊢
      split at ended
      next clean =>
        rw [if_pos clean]
        refine step (first middle) ?_ ended
        rintro ⟨_ | value, after⟩ reply ended
        · exact ended
        · exact rounds (by omega) (value :: taken) after reply ended
      next consumed =>
        rw [if_neg consumed]
        exact ended
    · exact ended

theorem manyTill (first : p'.Extends p) (terminator : q'.Extends q) (more : n ≤ m) :
    (manyTill m p' q').Extends (manyTill n p q) :=
  first.gatherTill terminator more []

theorem countFrom (first : p'.Extends p) (times : Nat) (taken : List α) :
    (countFrom p' times taken).Extends (countFrom p times taken) := by
  induction times generalizing taken with
  | zero => exact refl _
  | succ times rounds =>
    intro state _
    apply step (first state)
    rintro ⟨_ | value, after⟩ reply ended
    · exact ended
    · exact rounds (value :: taken) after reply ended

theorem count [Stored α] (first : p'.Extends p) (times : Nat) :
    (count times p').Extends (count times p) := by
  intro state reply ended
  obtain ⟨room, ended⟩ := count_eq_some.mp ended
  exact count_eq_some.mpr ⟨room, first.countFrom times [] state reply ended⟩

theorem gatherSeparated (item : p'.Extends p) (separator : q'.Extends q) (more : n ≤ m)
    (taken : List α) : (gatherSeparated p' q' m taken).Extends (gatherSeparated p q n taken) := by
  induction n generalizing m taken with
  | zero => intro _ _ ended; cases ended
  | succ n rounds =>
    obtain ⟨m, rfl⟩ : ∃ k, m = k + 1 := ⟨m - 1, by omega⟩
    intro state _
    apply step ((separator.seqRight item).attempt state)
    rintro ⟨_ | value, after⟩ reply ended
    · exact ended
    · exact rounds (by omega) (value :: taken) after reply ended

theorem sepBy (item : p'.Extends p) (separator : q'.Extends q) (more : n ≤ m) :
    (sepBy m p' q').Extends (sepBy n p q) := by
  intro state _
  apply step (item.attempt state)
  rintro ⟨_ | value, after⟩ reply ended
  · exact ended
  · exact item.gatherSeparated separator more [value] after reply ended

theorem sepBy1 (item : p'.Extends p) (separator : q'.Extends q) (more : n ≤ m) :
    (sepBy1 m p' q').Extends (sepBy1 n p q) := by
  intro state _
  apply step (item.attempt state)
  rintro ⟨_ | value, after⟩ reply ended
  · exact ended
  · exact item.gatherSeparated separator more [value] after reply ended

theorem gatherSepEnd (item : p'.Extends p) (separator : q'.Extends q) (more : n ≤ m)
    (taken : List α) : (gatherSepEnd p' q' m taken).Extends (gatherSepEnd p q n taken) := by
  induction n generalizing m taken with
  | zero => intro _ _ ended; cases ended
  | succ n rounds =>
    obtain ⟨m, rfl⟩ : ∃ k, m = k + 1 := ⟨m - 1, by omega⟩
    intro state _
    apply step (separator.attempt state)
    rintro ⟨_ | _, middle⟩ reply ended
    · exact ended
    · refine step (item.attempt middle) ?_ ended
      rintro ⟨_ | value, after⟩ reply ended
      · exact ended
      · exact rounds (by omega) (value :: taken) after reply ended

theorem sepEndBy (item : p'.Extends p) (separator : q'.Extends q) (more : n ≤ m) :
    (sepEndBy m p' q').Extends (sepEndBy n p q) := by
  intro state _
  apply step (item.attempt state)
  rintro ⟨_ | value, after⟩ reply ended
  · exact ended
  · exact item.gatherSepEnd separator more [value] after reply ended

theorem sepEndBy1 (item : p'.Extends p) (separator : q'.Extends q) (more : n ≤ m) :
    (sepEndBy1 m p' q').Extends (sepEndBy1 n p q) := by
  intro state _
  apply step (item.attempt state)
  rintro ⟨_ | value, after⟩ reply ended
  · exact ended
  · exact item.gatherSepEnd separator more [value] after reply ended

end Extends

end CommittedChoice.Parser
