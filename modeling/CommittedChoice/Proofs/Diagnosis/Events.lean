import CommittedChoice.Grammar.Run

/-! What a run does that its reply need not show: the characters it consumes and the failures it is
told to make, in branches that are given back like in those that are kept. The log of a combinator
is put together from the logs of its parts, each taken at the state the part was run from; the
replies of the parts tell which of them were run. -/
namespace CommittedChoice

variable {α β : Type}

inductive Act where
  | consume
  | refuse (expected : Expected)
  deriving DecidableEq

/-- An act and the state it was done in. -/
structure Event where
  state : State
  act : Act
  deriving DecidableEq

abbrev Log : Type := State → List Event

namespace Log

def quiet : Log := fun _ => []

def consumeOne : Log := fun state => [⟨state, .consume⟩]

def fail (expected : Expected) : Log := fun state => [⟨state, .refuse expected⟩]

def satisfy (accepts : Char → Bool) : Log := fun state =>
  match state.peek with
  | some char => if accepts char then [⟨state, .consume⟩] else []
  | none => []

def matchChars : List Char → Log
  | [], _ => []
  | char :: chars, state =>
    if state.peek = some char then ⟨state, .consume⟩ :: matchChars chars state.advance else []

/-- What is run after a success. -/
def afterSuccess (next : α → Log) : Option (Reply α) → List Event
  | some (.success value, after) => next value after
  | _ => []

/-- What is run after a failure with the cursor at the offset. -/
def afterClean (start : Nat) (next : Log) : Option (Reply α) → List Event
  | some (.failure _, after) => if after.cursor = start then next after else []
  | _ => []

def bind (p : Parser α) (first : Log) (next : α → Log) : Log := fun state =>
  first state ++ afterSuccess next (p state)

def orElse (p : Parser α) (first second : Log) : Log := fun state =>
  first state ++ afterClean state.cursor second (p state)

def choiceFrom (start : Nat) : List (Parser α × Log) → Log
  | [], _ => []
  | (p, log) :: others, state =>
    log state ++ afterClean start (choiceFrom start others) (p state)

/-- The body is run until it fails, and at most so many times. -/
def rounds (p : Parser α) (body : Log) : Nat → Log
  | 0 => quiet
  | limit + 1 => bind p body fun _ => rounds p body limit

/-- The terminator is run first in every round, and the body where it fails cleanly. -/
def roundsTill (p : Parser α) (q : Parser β) (body terminator : Log) : Nat → Log
  | 0 => quiet
  | limit + 1 =>
    orElse q terminator (bind p body fun _ => roundsTill p q body terminator limit)

end Log

namespace Grammar

variable {ι : Type} {τ : ι → Type}

/-- The log of the parser a tree stands for; `calls` are the logs of the rules. -/
def events (call : (name : ι) → Parser (τ name)) (calls : ι → Log) (limit : Nat) :
    {α : Type} → Grammar τ α → Log
  | _, .pure _ | _, .readChar => .quiet
  | _, .fail expected => .fail expected
  | _, .consumeOne => .consumeOne
  | _, .satisfy accepts => .satisfy accepts
  | _, .literal text => .matchChars text.toList
  | _, .bind g next =>
    .bind (g.parser call limit) (g.events call calls limit)
      fun value => (next value).events call calls limit
  | _, .seqRight first second | _, .seqLeft first second | _, .seqPair first second =>
    .bind (first.parser call limit) (first.events call calls limit)
      fun _ => second.events call calls limit
  | _, .between opening closing g =>
    .bind (opening.parser call limit) (opening.events call calls limit) fun _ =>
      .bind (g.parser call limit) (g.events call calls limit)
        fun _ => closing.events call calls limit
  | _, .orElse first second =>
    .orElse (first.parser call limit) (first.events call calls limit)
      (second.events call calls limit)
  | _, .choice alternatives => fun state =>
    Log.choiceFrom state.cursor (List.ofFn fun i =>
      ((alternatives i).parser call limit, (alternatives i).events call calls limit)) state
  | _, .map _ g | _, .recognize g | _, .attempt g | _, .lookAhead g | _, .notFollowedBy g
  | _, .label _ g | _, .option _ g | _, .optional g => g.events call calls limit
  | _, .many g => .rounds (g.parser call limit) (g.events call calls limit) limit
  | _, .many1 g => .rounds (g.parser call limit) (g.events call calls limit) (limit + 1)
  | _, .manyTill g terminator =>
    .roundsTill (g.parser call limit) (terminator.parser call limit) (g.events call calls limit)
      (terminator.events call calls limit) limit
  | _, @count _ _ α _ times g =>
    if Reservable α times then .rounds (g.parser call limit) (g.events call calls limit) times
    else .quiet
  | _, .endBy item separator =>
    .rounds (.seqLeft (item.parser call limit) (separator.parser call limit))
      (.bind (item.parser call limit) (item.events call calls limit)
        fun _ => separator.events call calls limit) limit
  | _, .endBy1 item separator =>
    .rounds (.seqLeft (item.parser call limit) (separator.parser call limit))
      (.bind (item.parser call limit) (item.events call calls limit)
        fun _ => separator.events call calls limit) (limit + 1)
  | _, .sepBy item separator | _, .sepBy1 item separator | _, .sepEndBy item separator
  | _, .sepEndBy1 item separator =>
    .bind (item.parser call limit) (item.events call calls limit) fun _ =>
      .rounds (.seqRight (separator.parser call limit) (item.parser call limit))
        (.bind (separator.parser call limit) (separator.events call calls limit)
          fun _ => item.events call calls limit) limit
  | _, .later build => (build ()).events call calls limit
  | _, .rule name => calls name

end Grammar

/-- The log of a rule that may enter rules to the given depth. -/
def Rules.events {ι : Type} {τ : ι → Type} (rules : Rules τ) (limit : Nat) : Nat → ι → Log
  | 0, _ => .quiet
  | depth + 1, name =>
    (rules name).events (rules.parser limit depth) (rules.events limit depth) limit

/-- Everything done in a run of the grammar from the state. -/
def Grammar.log {ι : Type} {τ : ι → Type} (rules : Rules τ) (fuel : Nat) (g : Grammar τ α) :
    Log :=
  g.events (rules.parser fuel fuel) (rules.events fuel fuel) fuel

end CommittedChoice
