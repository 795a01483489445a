import CommittedChoice.Expected
import CommittedChoice.Outcome
import CommittedChoice.Sequencer
import CommittedChoice.State

/-! A parser is a sequencer over parser states whose value is an outcome: a failure carries what
was expected, and either way there is a state to go on from. `none` is a run without a reply: it has
not ended within the bounds it was given, or it was broken off for want of room. -/
namespace CommittedChoice

abbrev Reply (α : Type) : Type := Outcome Expected α × State

def Parser (α : Type) : Type := Sequencer Option State (Outcome Expected α)

namespace Parser

variable {α β : Type}

def pure (value : α) : Parser α := fun state => some (.success value, state)

def fail (expected : Expected) : Parser α := fun state => some (.failure expected, state)

/-- Looks at the character under the cursor and leaves it there. -/
def readChar : Parser Char := fun state =>
  match state.peek with
  | some char => some (.success char, state)
  | none => some (.failure (.label "end of input"), state)

def consumeOne : Parser Unit := fun state => some (.success (), state.advance)

/-- A rejected character is left unread, and so is the end of input. -/
def satisfy (accepts : Char → Bool) : Parser Char := fun state =>
  match state.peek with
  | some char =>
    if accepts char then some (.success char, state.advance)
    else some (.failure .nothing, state)
  | none => some (.failure .nothing, state)

/-- Consumes the characters that match, one by one, and stops at the first that does not. -/
def matchChars : List Char → State → Bool × State
  | [], state => (true, state)
  | char :: chars, state =>
    if state.peek = some char then matchChars chars state.advance else (false, state)

/-- The characters matched before a mismatch stay consumed. -/
def literal (text : String) : Parser String := fun state =>
  match matchChars text.toList state with
  | (true, after) => some (.success text, after)
  | (false, after) => some (.failure (.literal text), after)

def map (f : α → β) (parser : Parser α) : Parser β := fun state => do
  match ← parser state with
  | (.success value, after) => some (.success (f value), after)
  | (.failure expected, after) => some (.failure expected, after)

/-- A failure is passed on with the state it left, and the continuation is not run. -/
def bind (parser : Parser α) (next : α → Parser β) : Parser β := fun state => do
  match ← parser state with
  | (.success value, after) => next value after
  | (.failure expected, after) => some (.failure expected, after)

/-- Both in sequence, for the value of the second. -/
def seqRight (first : Parser α) (second : Parser β) : Parser β := fun state => do
  match ← first state with
  | (.success _, after) => second after
  | (.failure expected, after) => some (.failure expected, after)

/-- Both in sequence, for the value of the first. -/
def seqLeft (first : Parser α) (second : Parser β) : Parser α := fun state => do
  match ← first state with
  | (.success value, middle) =>
    match ← second middle with
    | (.success _, after) => some (.success value, after)
    | (.failure expected, after) => some (.failure expected, after)
  | (.failure expected, after) => some (.failure expected, after)

/-- Both in sequence, for both values. -/
def seqPair (first : Parser α) (second : Parser β) : Parser (α × β) := fun state => do
  match ← first state with
  | (.success left, middle) =>
    match ← second middle with
    | (.success right, after) => some (.success (left, right), after)
    | (.failure expected, after) => some (.failure expected, after)
  | (.failure expected, after) => some (.failure expected, after)

def between {γ : Type} (opening : Parser α) (closing : Parser β) (parser : Parser γ) :
    Parser γ := fun state => do
  match ← opening state with
  | (.success _, inside) =>
    match ← parser inside with
    | (.success value, middle) =>
      match ← closing middle with
      | (.success _, after) => some (.success value, after)
      | (.failure expected, after) => some (.failure expected, after)
    | (.failure expected, after) => some (.failure expected, after)
  | (.failure expected, after) => some (.failure expected, after)

/-- Answers the source text that was consumed in place of the value. -/
def recognize (parser : Parser α) : Parser String := fun state => do
  match ← parser state with
  | (.success _, after) => some (.success ((state.between? after).getD ""), after)
  | (.failure expected, after) => some (.failure expected, after)

end Parser

end CommittedChoice
