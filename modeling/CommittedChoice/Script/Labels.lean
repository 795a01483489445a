import CommittedChoice.Expected

/-! A pool of expectations, each made from nothing, from one label or from two earlier ones. -/
namespace CommittedChoice.Script.Labels

inductive Step where
  | nothing
  | label (text : String)
  | merge (first second : Nat)
  | equal (first second : Nat)
  deriving DecidableEq

inductive Answer where
  | made (expected : Expected)
  | equal (result : Bool)
  deriving DecidableEq

def answer (pool : Array Expected) : Step → Option Answer
  | .nothing => some (.made .nothing)
  | .label text => some (.made (.label text))
  | .merge first second => do
    return .made ((← pool[first]?).merge (← pool[second]?))
  | .equal first second => do
    return .equal ((← pool[first]?) = (← pool[second]?))

/-- Whatever a step makes goes to the end of the pool. -/
def Answer.addTo (pool : Array Expected) : Answer → Array Expected
  | .made expected => pool.push expected
  | .equal _ => pool

def run (pool : Array Expected) : List Step → Option (List Answer)
  | [] => some []
  | step :: steps => do
    let next ← answer pool step
    return next :: (← run (next.addTo pool) steps)

end CommittedChoice.Script.Labels
