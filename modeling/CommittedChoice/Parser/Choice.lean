import CommittedChoice.Parser.Basic

/-! Choice looks at one thing only: whether a failed run has moved the cursor. A clean failure
lets the next alternative try, a consuming one is final. The operations that give input back turn
the second kind into the first. -/
namespace CommittedChoice.Parser

variable {α β : Type}

/-- When both fail cleanly, the labels of the first come before those of the second. -/
def orElse (first second : Parser α) : Parser α := fun state => do
  match ← first state with
  | (.success value, after) => some (.success value, after)
  | (.failure expected, middle) =>
    if middle.cursor = state.cursor then
      match ← second middle with
      | (.success value, after) => some (.success value, after)
      | (.failure expected', after) =>
        if after.cursor = state.cursor then some (.failure (expected.merge expected'), after)
        else some (.failure expected', after)
    else some (.failure expected, middle)

/-- Tries the alternatives in order, with the labels of those that have failed cleanly. -/
def choiceFrom (start : Nat) : List (Parser α) → Expected → Parser α
  | [], expected => fun state => some (.failure expected, state)
  | parser :: parsers, expected => fun state => do
    match ← parser state with
    | (.success value, after) => some (.success value, after)
    | (.failure expected', after) =>
      if after.cursor = start then choiceFrom start parsers (expected.merge expected') after
      else some (.failure expected', after)

def choice (parsers : List (Parser α)) : Parser α := fun state =>
  choiceFrom state.cursor parsers .nothing state

/-- A failure gives back what it consumed. -/
def attempt (parser : Parser α) : Parser α := fun state => do
  match ← parser state with
  | (.success value, after) => some (.success value, after)
  | (.failure expected, after) => some (.failure expected, after.rewind state.cursor)

/-- A success gives back what it consumed. -/
def lookAhead (parser : Parser α) : Parser α := fun state => do
  match ← parser state with
  | (.success value, after) => some (.success value, after.rewind state.cursor)
  | (.failure expected, after) => some (.failure expected, after)

/-- Succeeds where the parser fails; input is given back in both cases. -/
def notFollowedBy (parser : Parser α) : Parser Unit := fun state => do
  match ← parser state with
  | (.success _, after) => some (.failure .nothing, after.rewind state.cursor)
  | (.failure _, after) => some (.success (), after.rewind state.cursor)

/-- A clean failure is reported under the one label. -/
def label (text : String) (parser : Parser α) : Parser α := fun state => do
  match ← parser state with
  | (.success value, after) => some (.success value, after)
  | (.failure expected, after) =>
    if after.cursor = state.cursor then some (.failure (.label text), after)
    else some (.failure expected, after)

def option (default : α) (parser : Parser α) : Parser α := fun state => do
  match ← parser state with
  | (.success value, after) => some (.success value, after)
  | (.failure expected, after) =>
    if after.cursor = state.cursor then some (.success default, after)
    else some (.failure expected, after)

def optional (parser : Parser α) : Parser Unit := fun state => do
  match ← parser state with
  | (.success _, after) => some (.success (), after)
  | (.failure expected, after) =>
    if after.cursor = state.cursor then some (.success (), after)
    else some (.failure expected, after)

end CommittedChoice.Parser
