import CommittedChoice.Parser.Inversion
import CommittedChoice.Proofs.Locality.Loops
import CommittedChoice.Proofs.Reading.Pieces

/-! What a successful run has read. A parser yields a relation when the value of every successful
run stands in it to the text the run has taken. Where a failed run is gone on from, its parser has
to be local: then it has left the text it began with. -/
namespace CommittedChoice.Parser

variable {α β γ : Type} {p p' : Parser α} {q : Parser β} {k : α → Parser β}
  {P R : α → List Char → Prop} {Q : β → List Char → Prop} {S : List Char → Prop}
  {state after : State} {front text : List Char} {value : α}

def Yields (p : Parser α) (R : α → List Char → Prop) : Prop :=
  ∀ ⦃state front text value after⦄, State.Splits state front text →
    p state = some (.success value, after) →
    ∃ taken left, text = taken ++ left ∧ after.Splits (front ++ taken) left ∧ R value taken

/-- After a failure that has not moved the cursor the same text stands before it. -/
theorem Local.splits_of_clean {outcome : Outcome Expected α} (known : p.Local)
    (splits : state.Splits front text) (run : p state = some (outcome, after))
    (clean : after.cursor = state.cursor) : after.Splits front text := by
  obtain ⟨trip, ends, rfl⟩ := known.ends splits run
  have stayed : trip.taken = [] := (state.follow_cursor_eq trip).mp clean
  have moved := splits.follow ends.within
  rwa [stayed, List.append_nil, ends.within.left_eq stayed] at moved

theorem Local.splits_rewind {outcome : Outcome Expected α} (known : p.Local)
    (splits : state.Splits front text) (run : p state = some (outcome, after)) :
    (after.rewind state.cursor).Splits front text := by
  obtain ⟨trip, _, rfl⟩ := known.ends splits run
  exact splits.rewind rfl

theorem yields_pure (known : R value []) : (pure value).Yields R := by
  rintro state front text _ _ splits ⟨⟩
  exact ⟨[], text, rfl, by simpa using splits, known⟩

theorem yields_fail (expected : Expected) : (fail expected : Parser α).Yields R := by
  rintro _ _ _ _ _ _ ⟨⟩

theorem yields_satisfy {accepts : Char → Bool} {R : Char → List Char → Prop}
    (each : ∀ char, accepts char → R char [char]) : (satisfy accepts).Yields R := by
  intro state front text char after splits run
  cases text with
  | nil => simp [satisfy, splits.peek] at run
  | cons head rest =>
    by_cases accepted : accepts head
    · simp only [satisfy, splits.peek, List.head?_cons, accepted, if_true] at run
      cases run
      exact ⟨[char], rest, rfl, splits.advance, each char accepted⟩
    · simp [satisfy, splits.peek, accepted] at run

theorem matched_chars {chars : List Char} (splits : state.Splits front text)
    (run : matchChars chars state = (true, after)) :
    ∃ left, text = chars ++ left ∧ after.Splits (front ++ chars) left := by
  induction chars generalizing state front text with
  | nil =>
    cases run
    exact ⟨text, rfl, by simpa using splits⟩
  | cons char chars ih =>
    rw [matchChars, splits.peek] at run
    split at run
    next head =>
      obtain ⟨rest, rfl⟩ := List.head?_eq_some_iff.mp head
      obtain ⟨left, rfl, splits'⟩ := ih splits.advance run
      exact ⟨left, rfl, by simpa using splits'⟩
    next => cases run

theorem yields_literal {text : String} {R : String → List Char → Prop}
    (known : R text text.toList) : (literal text).Yields R := by
  intro state front rest value after splits run
  rw [literal] at run
  split at run
  next matched =>
    cases run
    obtain ⟨left, rfl, splits'⟩ := matched_chars splits matched
    exact ⟨text.toList, left, rfl, splits', known⟩
  next => cases run

/-- A sequence has succeeded where both parsers have. -/
theorem seqLeft_success (run : (p.seqLeft q) state = some (.success value, after)) :
    ∃ middle other, p state = some (.success value, middle) ∧
      q middle = some (.success other, after) := by
  cases ran : p state with
  | none => simp [Parser.seqLeft, ran] at run
  | some reply =>
    obtain ⟨expected | value', middle⟩ := reply
    · simp [Parser.seqLeft, ran] at run
    · simp only [Parser.seqLeft, ran, Option.bind_eq_bind, Option.bind_some] at run
      cases ran' : q middle with
      | none => simp [ran'] at run
      | some reply' =>
        obtain ⟨expected | other, after'⟩ := reply'
        · simp [ran'] at run
        · simp only [ran', Option.bind_some] at run
          cases run
          exact ⟨middle, other, rfl, ran'⟩

namespace Yields

theorem mono (known : p.Yields P) (each : ∀ value piece, P value piece → R value piece) :
    p.Yields R := by
  intro state front text value after splits run
  obtain ⟨taken, left, split, splits, read⟩ := known splits run
  exact ⟨taken, left, split, splits, each value taken read⟩

theorem bind (first : p.Yields P)
    (second : ∀ value piece, P value piece → (k value).Yields fun other rest => Q other (piece ++ rest)) :
    (p.bind k).Yields Q := by
  intro state front text other after splits run
  cases ran : p state with
  | none => simp [Parser.bind, ran] at run
  | some reply =>
    obtain ⟨expected | value, middle⟩ := reply
    · simp [Parser.bind, ran] at run
    · simp only [Parser.bind, ran, Option.bind_eq_bind, Option.bind_some] at run
      obtain ⟨piece, rest, rfl, splits, read⟩ := first splits ran
      obtain ⟨further, left, rfl, splits, read'⟩ := second value piece read splits run
      exact ⟨piece ++ further, left, by simp, by simpa using splits, read'⟩

theorem map {f : α → β} (first : p.Yields fun value piece => Q (f value) piece) :
    (p.map f).Yields Q :=
  first.bind (k := fun value => pure (f value)) fun value piece read =>
    yields_pure (by simpa using read)

theorem seqRight (first : p.Yields P)
    (second : ∀ value piece, P value piece → q.Yields fun other rest => Q other (piece ++ rest)) :
    (p.seqRight q).Yields Q :=
  first.bind (k := fun _ => q) second

theorem seqLeft (first : p.Yields P)
    (second : ∀ value piece, P value piece → q.Yields fun _ rest => R value (piece ++ rest)) :
    (p.seqLeft q).Yields R :=
  first.bind (k := fun value => q.map fun _ => value) fun value piece read =>
    (second value piece read).map

theorem seqPair {R : α × β → List Char → Prop} (first : p.Yields P)
    (second : ∀ value piece, P value piece →
      q.Yields fun other rest => R (value, other) (piece ++ rest)) :
    (p.seqPair q).Yields R :=
  first.bind (k := fun value => q.map fun other => (value, other)) fun value piece read =>
    (second value piece read).map

theorem between {r : Parser γ} {R : γ → List Char → Prop} (opening : p.Yields P)
    (content : ∀ value piece, P value piece →
      (r.seqLeft q).Yields fun inner rest => R inner (piece ++ rest)) :
    (between p q r).Yields R :=
  opening.bind (k := fun _ => r.seqLeft q) content

theorem recognize {R : String → List Char → Prop}
    (first : p.Yields fun _ piece => R (String.ofList piece) piece) : p.recognize.Yields R := by
  intro state front text value after splits run
  cases ran : p state with
  | none => simp [Parser.recognize, ran] at run
  | some reply =>
    obtain ⟨expected | inner, middle⟩ := reply
    · simp [Parser.recognize, ran] at run
    · obtain ⟨taken, left, rfl, splits', read⟩ := first splits ran
      simp only [Parser.recognize, ran, Option.bind_eq_bind, Option.bind_some,
        State.Splits.between? splits splits', Option.getD_some] at run
      cases run
      exact ⟨taken, left, rfl, splits', read⟩

/-- The second parser reads only where the first has failed cleanly, and the text there may tell
more of what has been read. -/
theorem orElse_clean (first : p.Yields R) (second : p'.Yields P) (known : p.Local)
    (clean : ∀ ⦃state front text expected middle⦄, State.Splits state front text →
      p state = some (.failure expected, middle) → middle.cursor = state.cursor →
      ∀ ⦃value taken left⦄, text = taken ++ left → P value taken → R value taken) :
    (p.orElse p').Yields R := by
  intro state front text value after splits run
  cases ran : p state with
  | none => simp [Parser.orElse, ran] at run
  | some reply =>
    obtain ⟨expected | value', middle⟩ := reply
    · simp only [Parser.orElse, ran, Option.bind_eq_bind, Option.bind_some] at run
      split at run
      next stayed =>
        have splits' := known.splits_of_clean splits ran stayed
        cases ran' : p' middle with
        | none => simp [ran'] at run
        | some reply' =>
          obtain ⟨expected' | value', after'⟩ := reply'
          · simp only [ran', Option.bind_some] at run
            split at run <;> cases run
          · simp only [ran', Option.bind_some] at run
            cases run
            obtain ⟨taken, left, split, splits', read⟩ := second splits' ran'
            exact ⟨taken, left, split, splits', clean splits ran stayed split read⟩
      next => cases run
    · simp only [Parser.orElse, ran, Option.bind_eq_bind, Option.bind_some] at run
      cases run
      exact first splits ran

theorem orElse (first : p.Yields R) (second : p'.Yields R) (known : p.Local) :
    (p.orElse p').Yields R :=
  first.orElse_clean second known fun _ _ _ _ _ _ _ _ _ _ _ _ read => read

theorem attempt (first : p.Yields R) : p.attempt.Yields R := by
  intro state front text value after splits run
  cases ran : p state with
  | none => simp [Parser.attempt, ran] at run
  | some reply =>
    obtain ⟨expected | value', middle⟩ := reply
    · simp [Parser.attempt, ran] at run
    · simp only [Parser.attempt, ran, Option.bind_eq_bind, Option.bind_some] at run
      cases run
      exact first splits ran

theorem label {name : String} (first : p.Yields R) : (p.label name).Yields R := by
  intro state front text value after splits run
  cases ran : p state with
  | none => simp [Parser.label, ran] at run
  | some reply =>
    obtain ⟨expected | value', middle⟩ := reply
    · simp only [Parser.label, ran, Option.bind_eq_bind, Option.bind_some] at run
      split at run <;> cases run
    · simp only [Parser.label, ran, Option.bind_eq_bind, Option.bind_some] at run
      cases run
      exact first splits ran

/-- An optional part has been read, or nothing has. -/
theorem optional {R : Unit → List Char → Prop} (first : p.Yields fun _ piece => R () piece)
    (none : R () []) (known : p.Local) : p.optional.Yields R := by
  intro state front text value after splits run
  cases ran : p state with
  | none => simp [Parser.optional, ran] at run
  | some reply =>
    obtain ⟨expected | value', middle⟩ := reply
    · simp only [Parser.optional, ran, Option.bind_eq_bind, Option.bind_some] at run
      split at run
      next clean =>
        cases run
        have splits' := known.splits_of_clean splits ran clean
        exact ⟨[], text, rfl, by simpa using splits', none⟩
      next => cases run
    · simp only [Parser.optional, ran, Option.bind_eq_bind, Option.bind_some] at run
      cases run
      exact first splits ran

/-- What a predicate has looked at is given back. -/
theorem notFollowedBy (known : p.Local) : p.notFollowedBy.Yields fun _ piece => piece = [] := by
  intro state front text value after splits run
  rcases notFollowedBy_eq_some.mp run with ⟨_, _, _, ⟨⟩⟩ | ⟨_, _, ran, ⟨⟩⟩
  exact ⟨[], text, rfl, by simpa using known.splits_rewind splits ran, rfl⟩

theorem choice {parsers : List (Parser α)} (each : ∀ parser ∈ parsers, parser.Yields R)
    (known : ∀ parser ∈ parsers, parser.Local) : (choice parsers).Yields R := by
  intro state front text value after splits run
  rw [Parser.choice] at run
  -- An alternative starts where the choice has started, whatever labels were gathered before it.
  suffices tried : ∀ (middle : State) (expected : Expected), middle.cursor = state.cursor →
      middle.Splits front text →
      choiceFrom state.cursor parsers expected middle = some (.success value, after) →
      ∃ taken left, text = taken ++ left ∧ after.Splits (front ++ taken) left ∧ R value taken from
    tried state .nothing rfl splits run
  clear run
  induction parsers with
  | nil =>
    intro middle expected _ _ run
    cases run
  | cons parser parsers ih =>
    intro middle expected stayed splits run
    cases ran : parser middle with
    | none => simp [choiceFrom, ran] at run
    | some reply =>
      obtain ⟨expected' | value', further⟩ := reply
      · simp only [choiceFrom, ran, Option.bind_eq_bind, Option.bind_some] at run
        split at run
        next clean =>
          have head := known parser (by simp)
          have splits' := head.splits_of_clean splits ran (clean.trans stayed.symm)
          exact ih (fun other member => each other (by simp [member]))
            (fun other member => known other (by simp [member])) further _ clean splits' run
        next => cases run
      · simp only [choiceFrom, ran, Option.bind_eq_bind, Option.bind_some] at run
        cases run
        exact each parser (by simp) splits ran

/-- The rounds of a loop have read pieces. -/
theorem gather (body : p.Yields R) (known : p.Local) (limit : Nat) (before : List α) :
    (gather p limit before).Yields fun values text =>
      ∃ more, values = before.reverse ++ more ∧ Pieces R more text := by
  induction limit generalizing before with
  | zero => rintro _ _ _ _ _ _ ⟨⟩
  | succ limit ih =>
    intro state front text values after splits run
    cases ran : p state with
    | none => simp [Parser.gather, Parser.attempt, ran] at run
    | some reply =>
      obtain ⟨expected | value, middle⟩ := reply
      · simp only [Parser.gather, Parser.attempt, ran, Option.bind_eq_bind, Option.bind_some] at run
        cases run
        have splits' := known.splits_rewind splits ran
        exact ⟨[], text, rfl, by simpa using splits', [], by simp, .nil⟩
      · simp only [Parser.gather, Parser.attempt, ran, Option.bind_eq_bind, Option.bind_some] at run
        obtain ⟨piece, rest, rfl, splits, read⟩ := body splits ran
        obtain ⟨taken, left, rfl, splits, more, rfl, others⟩ := ih (value :: before) splits run
        exact ⟨piece ++ taken, left, by simp, by simpa using splits, value :: more, by simp,
          .cons read others⟩

theorem many (body : p.Yields R) (known : p.Local) (limit : Nat) :
    (many limit p).Yields (Pieces R) :=
  (body.gather known limit []).mono fun _ _ ⟨_, same, pieces⟩ => same ▸ pieces

theorem many1 (body : p.Yields R) (known : p.Local) (limit : Nat) :
    (many1 limit p).Yields fun values text => values ≠ [] ∧ Pieces R values text :=
  body.attempt.bind (k := fun value => Parser.gather p limit [value]) fun value piece read =>
    (body.gather known limit [value]).mono fun _ _ ⟨_, same, others⟩ =>
      same ▸ ⟨by simp, .cons read others⟩

theorem countFrom (body : p.Yields R) (times : Nat) (before : List α) :
    (countFrom p times before).Yields fun values text =>
      ∃ more, values = before.reverse ++ more ∧ more.length = times ∧ Pieces R more text := by
  induction times generalizing before with
  | zero => exact yields_pure ⟨[], by simp, rfl, .nil⟩
  | succ times ih =>
    apply body.bind (k := fun value => Parser.countFrom p times (value :: before))
    intro value piece read
    apply (ih (value :: before)).mono
    rintro _ text ⟨more, rfl, length, pieces⟩
    exact ⟨value :: more, by simp, by rw [List.length_cons, length], .cons read pieces⟩

theorem count [Stored α] (body : p.Yields R) (times : Nat) :
    (count times p).Yields fun values text => values.length = times ∧ Pieces R values text := by
  have counted : (Parser.countFrom p times []).Yields fun values text =>
      values.length = times ∧ Pieces R values text :=
    (body.countFrom times []).mono fun _ _ ⟨_, same, length, pieces⟩ => same ▸ ⟨length, pieces⟩
  intro _ _ _ _ _ splits run
  exact counted splits (count_eq_some.mp run).2

theorem sepBy (item : p.Yields R) (separator : q.Yields fun _ piece => S piece)
    (known : p.Local) (known' : q.Local) (limit : Nat) :
    (sepBy limit p q).Yields (Listed R S) := by
  have round : (q.seqRight p).Yields (After S R) :=
    separator.seqRight fun _ piece between => item.mono fun _ _ next => .mk between next
  intro state front text values after splits run
  cases ran : p state with
  | none => simp [Parser.sepBy, Parser.attempt, ran] at run
  | some reply =>
    obtain ⟨expected | value, middle⟩ := reply
    · simp only [Parser.sepBy, Parser.attempt, ran, Option.bind_eq_bind, Option.bind_some] at run
      cases run
      have splits' := known.splits_rewind splits ran
      exact ⟨[], text, rfl, by simpa using splits', .nil⟩
    · simp only [Parser.sepBy, Parser.attempt, ran, Option.bind_eq_bind, Option.bind_some,
        gatherSeparated_eq] at run
      obtain ⟨piece, rest, rfl, splits, read⟩ := item splits ran
      have loop := round.gather (known'.seqRight known) limit [value]
      obtain ⟨taken, left, rfl, splits, more, rfl, others⟩ := loop splits run
      exact ⟨piece ++ taken, left, by simp, by simpa using splits, .cons read others⟩

end Yields

end CommittedChoice.Parser
