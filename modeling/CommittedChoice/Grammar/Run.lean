import CommittedChoice.Failure
import CommittedChoice.Grammar.Basic

/-! A grammar runs together with its rules. The fuel bounds how deeply rules are entered one
inside the other and how many rounds a loop takes; a run that has ended is the same with more
fuel, and a run ends when some fuel is enough. -/
namespace CommittedChoice

def Rules {ι : Type} (τ : ι → Type) : Type 1 := (name : ι) → Grammar τ (τ name)

namespace Rules

variable {ι : Type} {τ : ι → Type}

def empty : Rules (fun _ : Empty => Unit) := fun name => nomatch name

/-- The parser of a rule that may enter rules to the given depth. -/
def parser (rules : Rules τ) (limit : Nat) : Nat → (name : ι) → Parser (τ name)
  | 0, _ => fun _ => none
  | depth + 1, name => (rules name).parser (rules.parser limit depth) limit

end Rules

namespace Grammar

variable {ι : Type} {τ : ι → Type} {α : Type}

def run (rules : Rules τ) (fuel : Nat) (g : Grammar τ α) : Parser α :=
  g.parser (rules.parser fuel fuel) fuel

/-- The run ends with this reply. -/
def Replies (rules : Rules τ) (g : Grammar τ α) (state : State) (reply : Reply α) : Prop :=
  ∃ fuel, g.run rules fuel state = some reply

/-- A failure becomes a diagnostic made from the state it left. -/
def resultOf : Reply α → Except Failure α
  | (.success value, _) => .ok value
  | (.failure expected, after) => .error (.ofState expected after)

/-- Runs the grammar from the start of the input. -/
def parse (rules : Rules τ) (fuel : Nat) (g : Grammar τ α) (input : String) :
    Option (Except Failure α) :=
  (g.run rules fuel (.start input)).map resultOf

/-- Fuel for a grammar over so many rules in which no loop repeats a parser on the empty text and
no rule enters itself without consuming: each loop round but the last takes a character, and at
each place in the source a rule is entered at most once inside itself. -/
def ampleFuel (rules : Nat) (source : String) : Nat := (rules + 2) * (source.length + 2)

end Grammar

end CommittedChoice
