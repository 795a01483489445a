import CommittedChoice.Script.Node

/-! Running scripts: a node over a whole input, or a session of steps that hand one state on. -/
namespace CommittedChoice.Script

abbrev Definitions : Type := List (String × Node)

/-- A name without a definition fails. -/
def rules (definitions : Definitions) : Rules RuleName.Yield
  | .jsonValue => Json.valueText Json.Number.ofText? (.rule RuleName.jsonValue)
  | .named name =>
    match definitions.lookup name with
    | some node => node.grammar
    | none => .fail .nothing

/-- Runs a node with ample fuel. -/
def runNode (definitions : Definitions) (node : Node) : Parser Value := fun state =>
  node.grammar.run (rules definitions)
    (Grammar.ampleFuel (definitions.length + 1) state.source) state

/-- The result of a parse from the start of the input, and the state it leaves. -/
def parseNode (definitions : Definitions) (node : Node) (input : String) :
    Option (Except Failure Value × State) := do
  let reply ← runNode definitions node (.start input)
  return (Grammar.resultOf reply, reply.2)

namespace Session

inductive Step where
  | grammar (node : Node)
  | mark (name : String)
  | restore (name : String)
  | same (name : String)
  | rest
  | diagnose (labels : List String)

inductive Answer where
  | done
  | outcome (outcome : Outcome Expected Value)
  | same (equal : Bool)
  | rest (text : String)
  | diagnosis (failure : Failure)

end Session

/-- The current state and the states that were marked, the latest first. -/
structure Session where
  current : State
  marked : List (String × State)

namespace Session

def start (input : String) : Session := ⟨.start input, []⟩

/-- Takes one step. A name that was never marked restores nothing and equals no state. -/
def step (definitions : Definitions) (session : Session) : Step → Option (Answer × Session)
  | .grammar node => do
    let (outcome, after) ← runNode definitions node session.current
    return (.outcome outcome, { session with current := after })
  | .mark name =>
    some (.done, { session with marked := (name, session.current) :: session.marked })
  | .restore name =>
    let current := (session.marked.lookup name).getD session.current
    some (.done, { session with current })
  | .same name => some (.same (session.marked.lookup name = some session.current), session)
  | .rest => some (.rest (session.current.rest?.getD ""), session)
  | .diagnose labels =>
    some (.diagnosis (.ofState (.ofLabels labels) session.current), session)

/-- The answer of each step with the state after it. -/
def run (definitions : Definitions) (session : Session) :
    List Step → Option (List (Answer × State))
  | [] => some []
  | step :: steps => do
    let (answer, after) ← session.step definitions step
    return (answer, after.current) :: (← after.run definitions steps)

end Session

end CommittedChoice.Script
