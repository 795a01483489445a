import CommittedChoice.Parser.Choice
import CommittedChoice.Storage

/-! Repetition gathers values until a run fails. Each loop is bounded by a limit on its rounds and
has not ended, `none`, when it runs out; `taken` holds the values so far, the latest first. -/
namespace CommittedChoice.Parser

variable {α β : Type}

/-- Attempts the parser until it fails. -/
def gather (parser : Parser α) : Nat → List α → Parser (List α)
  | 0, _ => fun _ => none
  | limit + 1, taken => fun state => do
    match ← parser.attempt state with
    | (.success value, after) => gather parser limit (value :: taken) after
    | (.failure _, after) => some (.success taken.reverse, after)

def many (limit : Nat) (parser : Parser α) : Parser (List α) := gather parser limit []

def many1 (limit : Nat) (parser : Parser α) : Parser (List α) := fun state => do
  match ← parser.attempt state with
  | (.success value, after) => gather parser limit [value] after
  | (.failure expected, after) => some (.failure expected, after)

/-- Tries the terminator first in every round, and an item only where it fails cleanly. -/
def gatherTill (parser : Parser α) (terminator : Parser β) : Nat → List α → Parser (List α)
  | 0, _ => fun _ => none
  | limit + 1, taken => fun state => do
    match ← terminator state with
    | (.success _, after) => some (.success taken.reverse, after)
    | (.failure expected, middle) =>
      if middle.cursor = state.cursor then
        match ← parser middle with
        | (.success value, after) => gatherTill parser terminator limit (value :: taken) after
        | (.failure expected', after) =>
          if after.cursor = state.cursor then some (.failure (expected.merge expected'), after)
          else some (.failure expected', after)
      else some (.failure expected, middle)

def manyTill (limit : Nat) (parser : Parser α) (terminator : Parser β) : Parser (List α) :=
  gatherTill parser terminator limit []

def countFrom (parser : Parser α) : Nat → List α → Parser (List α)
  | 0, taken => fun state => some (.success taken.reverse, state)
  | times + 1, taken => fun state => do
    match ← parser state with
    | (.success value, after) => countFrom parser times (value :: taken) after
    | (.failure expected, after) => some (.failure expected, after)

/-- A run that is broken off at once. -/
def broken : Parser α := fun _ => none

/-- Exactly so many runs; nothing is given back when one of them fails. The list is reserved before
the first run, which is not reached when there is no room for so many values. -/
def count [Stored α] (times : Nat) (parser : Parser α) : Parser (List α) :=
  if Reservable α times then countFrom parser times [] else broken

theorem count_eq_some [Stored α] {times : Nat} {parser : Parser α} {state : State}
    {reply : Reply (List α)} : count times parser state = some reply ↔
      Reservable α times ∧ countFrom parser times [] state = some reply := by
  by_cases room : Reservable α times <;> simp [count, broken, room]

end CommittedChoice.Parser
