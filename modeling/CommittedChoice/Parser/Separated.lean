import CommittedChoice.Parser.Repetition

/-! Lists of items with a separator between them, after each of them, or between them and
optionally after the last one. An incomplete round is given back and ends the list. -/
namespace CommittedChoice.Parser

variable {α β : Type}

/-- Attempts a separator and an item together until they fail. -/
def gatherSeparated (item : Parser α) (separator : Parser β) : Nat → List α → Parser (List α)
  | 0, _ => fun _ => none
  | limit + 1, taken => fun state => do
    match ← (separator.seqRight item).attempt state with
    | (.success value, after) => gatherSeparated item separator limit (value :: taken) after
    | (.failure _, after) => some (.success taken.reverse, after)

/-- A separator and the item after it are gathered like one parser. -/
theorem gatherSeparated_eq (item : Parser α) (separator : Parser β) (limit : Nat)
    (taken : List α) :
    gatherSeparated item separator limit taken = gather (separator.seqRight item) limit taken := by
  induction limit generalizing taken with
  | zero => rfl
  | succ limit rounds =>
    have others : gatherSeparated item separator limit = gather (separator.seqRight item) limit :=
      funext rounds
    rw [gatherSeparated, others]
    rfl

def sepBy (limit : Nat) (item : Parser α) (separator : Parser β) : Parser (List α) :=
  fun state => do
    match ← item.attempt state with
    | (.success value, after) => gatherSeparated item separator limit [value] after
    | (.failure _, after) => some (.success [], after)

def sepBy1 (limit : Nat) (item : Parser α) (separator : Parser β) : Parser (List α) :=
  fun state => do
    match ← item.attempt state with
    | (.success value, after) => gatherSeparated item separator limit [value] after
    | (.failure expected, after) => some (.failure expected, after)

def endBy (limit : Nat) (item : Parser α) (separator : Parser β) : Parser (List α) :=
  many limit (item.seqLeft separator)

def endBy1 (limit : Nat) (item : Parser α) (separator : Parser β) : Parser (List α) :=
  many1 limit (item.seqLeft separator)

/-- Attempts a separator and then an item, so that a separator stays consumed when no item
follows it. -/
def gatherSepEnd (item : Parser α) (separator : Parser β) : Nat → List α → Parser (List α)
  | 0, _ => fun _ => none
  | limit + 1, taken => fun state => do
    match ← separator.attempt state with
    | (.success _, middle) =>
      match ← item.attempt middle with
      | (.success value, after) => gatherSepEnd item separator limit (value :: taken) after
      | (.failure _, after) => some (.success taken.reverse, after)
    | (.failure _, after) => some (.success taken.reverse, after)

def sepEndBy (limit : Nat) (item : Parser α) (separator : Parser β) : Parser (List α) :=
  fun state => do
    match ← item.attempt state with
    | (.success value, after) => gatherSepEnd item separator limit [value] after
    | (.failure _, after) => some (.success [], after)

def sepEndBy1 (limit : Nat) (item : Parser α) (separator : Parser β) : Parser (List α) :=
  fun state => do
    match ← item.attempt state with
    | (.success value, after) => gatherSepEnd item separator limit [value] after
    | (.failure expected, after) => some (.failure expected, after)

end CommittedChoice.Parser
