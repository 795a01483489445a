import CommittedChoice.Proofs.Reachable.Invariant
import CommittedChoice.Proofs.Reading.Halts

/-! What the runs of a grammar give, and the grammars that never give anything on the empty text.
Both are told by runs from states that runs lead to, and are known of runs at any place in a text
and under any bound on rounds and rules. -/
namespace CommittedChoice.Grammar

variable {ι : Type} {τ : ι → Type} {α β : Type}

/-- Some run from a state that runs lead to succeeds with the value. -/
def Gives (rules : Rules τ) (g : Grammar τ α) (value : α) : Prop :=
  ∃ input state after, Reachable input state ∧ g.Replies rules state (.success value, after)

/-- No run from a state that runs lead to succeeds without moving the cursor. -/
def Consumes (rules : Rules τ) (g : Grammar τ α) : Prop :=
  ∀ ⦃input state value after⦄, Reachable input state →
    g.Replies rules state (.success value, after) → after.cursor ≠ state.cursor

/-- The tree, run at the first state, is a loop that starts at the second one and goes on by these
steps. A list with separators has read an item before its loop. -/
inductive Repeats (rules : Rules τ) : {α : Type} →
    Grammar τ (List α) → State → State → (State → α → State → Prop) → Prop where
  | many {α : Type} {g : Grammar τ α} {state : State} :
      Repeats rules (.many g) state state (Succeeds (g.Replies rules))
  | many1 {α : Type} {g : Grammar τ α} {state : State} :
      Repeats rules (.many1 g) state state (Succeeds (g.Replies rules))
  | manyTill {α β : Type} {g : Grammar τ α} {terminator : Grammar τ β} {state : State} :
      Repeats rules (.manyTill g terminator) state state
        (Passes (g.Replies rules) (terminator.Replies rules))
  | endBy {α β : Type} {item : Grammar τ α} {separator : Grammar τ β} {state : State} :
      Repeats rules (.endBy item separator) state state
        (Succeeds ((item.seqLeft separator).Replies rules))
  | endBy1 {α β : Type} {item : Grammar τ α} {separator : Grammar τ β} {state : State} :
      Repeats rules (.endBy1 item separator) state state
        (Succeeds ((item.seqLeft separator).Replies rules))
  | sepBy {α β : Type} {item : Grammar τ α} {separator : Grammar τ β} {state start : State}
      {value : α} (first : item.Replies rules state (.success value, start)) :
      Repeats rules (.sepBy item separator) state start
        (Succeeds ((separator.seqRight item).Replies rules))
  | sepBy1 {α β : Type} {item : Grammar τ α} {separator : Grammar τ β} {state start : State}
      {value : α} (first : item.Replies rules state (.success value, start)) :
      Repeats rules (.sepBy1 item separator) state start
        (Succeeds ((separator.seqRight item).Replies rules))
  | sepEndBy {α β : Type} {item : Grammar τ α} {separator : Grammar τ β} {state start : State}
      {value : α} (first : item.Replies rules state (.success value, start)) :
      Repeats rules (.sepEndBy item separator) state start
        (Succeeds ((separator.seqRight item).Replies rules))
  | sepEndBy1 {α β : Type} {item : Grammar τ α} {separator : Grammar τ β} {state start : State}
      {value : α} (first : item.Replies rules state (.success value, start)) :
      Repeats rules (.sepEndBy1 item separator) state start
        (Succeeds ((separator.seqRight item).Replies rules))

variable {rules : Rules τ} {g : Grammar τ α} {h : Grammar τ β} {input : String}
  {state after : State} {value : α} {front text : List Char} {limit depth : Nat}

/-- A bounded run that ends tells the reply of the runs without a bound. -/
theorem replies_of_bounded {reply : Reply α}
    (run : g.parser (rules.parser limit depth) limit state = some reply) :
    g.Replies rules state reply := by
  have calls : ∀ name, (rules.parser (max limit depth) (max limit depth) name).Extends
      (rules.parser limit depth name) :=
    Rules.parser_extends (Nat.le_max_left _ _) (Nat.le_max_right _ _)
  exact ⟨max limit depth, g.parser_extends calls (Nat.le_max_left _ _) state reply run⟩

/-- What a run does between two characters, a run from the start of the text there does. -/
theorem Replies.from_start {outcome : Outcome Expected α}
    (replies : g.Replies rules state (outcome, after)) (splits : state.Splits front text) :
    ∃ trip, trip.Within text ∧ after = state.follow trip ∧
      g.Replies rules (.start (String.ofList text))
        (outcome, (State.start (String.ofList text)).follow trip) := by
  obtain ⟨trip, within, after, same⟩ := replies.ends splits
  exact ⟨trip, within, after, same (by simpa using State.splits_start (String.ofList text))⟩

theorem Replies.left {reply : Reply α} (replies : g.Replies rules state reply)
    (splits : state.Splits front text) :
    ∃ front left, reply.2.Splits front left ∧ left.length ≤ text.length := by
  obtain ⟨fuel, run⟩ := replies
  exact (run_local rules fuel g).left splits run

/-- At whatever place in a text a run starts, it gives a value that may be given, and takes
something when the grammar consumes. -/
theorem yields_given (rules : Rules τ) (g : Grammar τ α) (limit depth : Nat) :
    (g.parser (rules.parser limit depth) limit).Yields
      fun value piece => g.Gives rules value ∧ (g.Consumes rules → piece ≠ []) := by
  intro state front text value after splits run
  obtain ⟨trip, within, rfl, same⟩ := (replies_of_bounded run).from_start splits
  refine ⟨trip.taken, trip.left, within.split, splits.follow within, ⟨_, _, _, .start, same⟩, ?_⟩
  exact fun consumes none => consumes .start same (State.follow_cursor_eq _ trip |>.mpr none)

theorem Gives.of_yields {Q : α → Prop} (given : g.Gives rules value)
    (each : ∀ fuel, (g.run rules fuel).Yields fun value _ => Q value) : Q value := by
  obtain ⟨input, state, after, reached, fuel, run⟩ := given
  obtain ⟨front, text, splits⟩ := reached.sound.splits
  obtain ⟨_, _, _, _, holds⟩ := each fuel splits run
  exact holds

theorem consumes_of_yields
    (each : ∀ fuel, (g.run rules fuel).Yields fun _ piece => piece ≠ []) : g.Consumes rules := by
  rintro input state value after reached ⟨fuel, run⟩ stayed
  obtain ⟨front, text, splits⟩ := reached.sound.splits
  obtain ⟨piece, left, rfl, splits', some⟩ := each fuel splits run
  have size := splits'.cursor
  rw [stayed, splits.cursor, Text.size_append] at size
  exact some (Text.size_eq_zero.mp (by omega))

theorem consumes_satisfy (accepts : Char → Bool) :
    (Grammar.satisfy accepts : Grammar τ Char).Consumes rules :=
  consumes_of_yields fun _ => Parser.yields_satisfy fun _ _ => List.cons_ne_nil _ _

namespace Consumes

theorem yields (consumes : g.Consumes rules) (limit depth : Nat) :
    (g.parser (rules.parser limit depth) limit).Yields fun _ piece => piece ≠ [] :=
  (yields_given rules g limit depth).mono fun _ _ known => known.2 consumes

theorem shortens (consumes : g.Consumes rules) : Shortens (Succeeds (g.Replies rules)) := by
  rintro state front text value after splits ⟨fuel, run⟩
  exact (consumes.yields fuel fuel).shortens splits run

/-- The cursor only moves forward, so it moves past where it was. -/
theorem advances (consumes : g.Consumes rules) (reached : Reachable input state)
    (replies : g.Replies rules state (.success value, after)) : state.cursor < after.cursor :=
  Nat.lt_of_le_of_ne (replies.proper reached.sound).forward (consumes reached replies).symm

theorem label (text : String) (consumes : g.Consumes rules) : (g.label text).Consumes rules :=
  consumes_of_yields fun fuel => (consumes.yields fuel fuel).label

theorem seqRight (consumes : g.Consumes rules) (h : Grammar τ β) :
    (g.seqRight h).Consumes rules :=
  consumes_of_yields fun fuel => (consumes.yields fuel fuel).seqRight fun _ _ some =>
    (run_local rules fuel h).yields.mono fun _ _ _ => List.append_ne_nil_of_left_ne_nil some _

theorem seqLeft (consumes : g.Consumes rules) (h : Grammar τ β) : (g.seqLeft h).Consumes rules :=
  consumes_of_yields fun fuel => (consumes.yields fuel fuel).seqLeft fun _ _ some =>
    (run_local rules fuel h).yields.mono fun _ _ _ => List.append_ne_nil_of_left_ne_nil some _

end Consumes

end CommittedChoice.Grammar
