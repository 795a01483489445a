import CommittedChoice.Outcome

/-! Pipelines of steps over an outcome whose values are 64-bit integers and whose failures are
texts. -/
namespace CommittedChoice.Script.Pipeline

abbrev Item : Type := Outcome String Int64

/-- Continuations that may fail. -/
inductive Next where
  | half
  | decrement
  | pure
  | fail
  deriving DecidableEq

def Next.apply : Next → Int64 → Item
  | .half, n => if n % 2 = 0 then .success (n / 2) else .failure (toString n ++ " is odd")
  | .decrement, n => if n = Int64.minValue then .failure "underflow" else .success (n - 1)
  | .pure, n => .pure n
  | .fail, n => .failure ("failed at " ++ toString n)

inductive Step where
  | andThen (next : Next)
  | map (added : Int64)
  | mapFailure (appended : String)
  | successOr (default : Int64)
  | failureOr (default : String)
  | sides
  | equal (other : Item)
  | result
  | lengths
  deriving DecidableEq

inductive Answer where
  | nothing
  | value (n : Int64)
  | reason (text : String)
  | sides (success failure : Bool)
  | equal (result : Bool)
  | result (result : Except String Int64)
  | lengths (outcome : Outcome Nat Int64)

/-- The outcome after a step, whether the function of the step was called, and its answer. -/
structure Report where
  outcome : Item
  called : Bool
  answer : Answer

def apply (item : Item) : Step → Report
  | .andThen next => ⟨item.andThen next.apply, item.isSuccess, .nothing⟩
  | .map added => ⟨item.map (· + added), item.isSuccess, .nothing⟩
  | .mapFailure appended => ⟨item.mapFailure (· ++ appended), item.isFailure, .nothing⟩
  | .successOr default => ⟨item, false, .value (item.successOr default)⟩
  | .failureOr default => ⟨item, false, .reason (item.failureOr default)⟩
  | .sides => ⟨item, false, .sides item.isSuccess item.isFailure⟩
  | .equal other => ⟨item, false, .equal (item = other)⟩
  | .result => ⟨.ofExcept item.toExcept, false, .result item.toExcept⟩
  | .lengths => ⟨item, false, .lengths (item.mapFailure String.length)⟩

def run (item : Item) : List Step → List Report
  | [] => []
  | step :: steps =>
    let report := apply item step
    report :: run report.outcome steps

end CommittedChoice.Script.Pipeline
