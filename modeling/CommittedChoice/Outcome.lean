/-! An outcome is a success or a failure, and a failure is data like a success. The operations
below act on one side and leave the other as it is. -/
namespace CommittedChoice

inductive Outcome (ε α : Type) where
  | failure (reason : ε)
  | success (value : α)
  deriving DecidableEq

namespace Outcome

variable {ε ε' α β : Type}

def pure (value : α) : Outcome ε α := .success value

/-- The continuation of a failure is never run. -/
def andThen (outcome : Outcome ε α) (next : α → Outcome ε β) : Outcome ε β :=
  match outcome with
  | .failure reason => .failure reason
  | .success value => next value

def map (f : α → β) : Outcome ε α → Outcome ε β
  | .failure reason => .failure reason
  | .success value => .success (f value)

def mapFailure (f : ε → ε') : Outcome ε α → Outcome ε' α
  | .failure reason => .failure (f reason)
  | .success value => .success value

def successOr (default : α) : Outcome ε α → α
  | .failure _ => default
  | .success value => value

def failureOr (default : ε) : Outcome ε α → ε
  | .failure reason => reason
  | .success _ => default

def isSuccess : Outcome ε α → Bool
  | .failure _ => false
  | .success _ => true

def isFailure : Outcome ε α → Bool
  | .failure _ => true
  | .success _ => false

def toExcept : Outcome ε α → Except ε α
  | .failure reason => .error reason
  | .success value => .ok value

def ofExcept : Except ε α → Outcome ε α
  | .error reason => .failure reason
  | .ok value => .success value

theorem ofExcept_toExcept (outcome : Outcome ε α) : ofExcept outcome.toExcept = outcome := by
  cases outcome <;> rfl

theorem toExcept_ofExcept (result : Except ε α) : (ofExcept result).toExcept = result := by
  cases result <;> rfl

end Outcome

end CommittedChoice
