import CommittedChoice.Expected
import CommittedChoice.State

/-! The diagnostic for a failed parse. It points at the deepest character that was consumed, or at
the cursor when there is none. -/
namespace CommittedChoice

structure Failure where
  expected : Expected
  offset : Nat
  found : Option Char
  deriving DecidableEq

namespace Failure

def ofState (expected : Expected) (state : State) : Failure :=
  let offset := state.furthest.getD state.cursor
  ⟨expected, offset, Text.charAt? state.source offset⟩

/-- The number of bytes pointed at, none at the end of input. -/
def length (failure : Failure) : Nat := (failure.found.map Char.utf8Size).getD 0

def token (failure : Failure) : String :=
  match failure.found with
  | some char => "\"" ++ char.toString ++ "\""
  | none => "end of input"

def message (failure : Failure) : String :=
  if failure.expected.isEmpty then
    "unexpected " ++ failure.token
  else
    "unexpected " ++ failure.token ++ ", expecting " ++ failure.expected.text

end Failure

end CommittedChoice
