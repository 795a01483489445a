/-! A sequencer reads a state and answers a value with the next state. The base monad is `Id` for
a computation that always ends and `Option` for one that may not. -/
namespace CommittedChoice

def Sequencer (m : Type → Type) (σ α : Type) : Type := σ → m (α × σ)

namespace Sequencer

variable {m : Type → Type} [Monad m] {σ α β : Type}

def pure (value : α) : Sequencer m σ α := fun state => Pure.pure (value, state)

def get : Sequencer m σ σ := fun state => Pure.pure (state, state)

def gets (f : σ → α) : Sequencer m σ α := fun state => Pure.pure (f state, state)

def put (next : σ) : Sequencer m σ Unit := fun _ => Pure.pure ((), next)

def modify (f : σ → σ) : Sequencer m σ Unit := fun state => Pure.pure ((), f state)

def ofFunction (step : σ → α × σ) : Sequencer m σ α := fun state => Pure.pure (step state)

/-- The second computation is made from the value of the first and starts in the state the
first one left. -/
def bind (first : Sequencer m σ α) (next : α → Sequencer m σ β) : Sequencer m σ β :=
  fun state => do
    let (value, after) ← first state
    next value after

def map (f : α → β) (program : Sequencer m σ α) : Sequencer m σ β := fun state => do
  let (value, after) ← program state
  return (f value, after)

def run (program : Sequencer m σ α) (state : σ) : m (α × σ) := program state

def eval (program : Sequencer m σ α) (state : σ) : m α := do
  return (← program state).1

def exec (program : Sequencer m σ α) (state : σ) : m σ := do
  return (← program state).2

end Sequencer

end CommittedChoice
