import CommittedChoice.Text.Offset

/-! Where a parser stands in its source. The cursor and the furthest marker are byte offsets; the
marker remembers the deepest character that was ever consumed, and rewinding leaves it alone. -/
namespace CommittedChoice

structure State where
  source : String
  cursor : Nat
  furthest : Option Nat
  deriving DecidableEq

namespace State

def start (source : String) : State := ⟨source, 0, none⟩

def peek (state : State) : Option Char := Text.charAt? state.source state.cursor

def atEnd (state : State) : Bool := state.source.utf8ByteSize ≤ state.cursor

/-- The source from the cursor on. -/
def rest? (state : State) : Option String := Text.drop? state.source state.cursor

def deepest (furthest : Option Nat) (offset : Nat) : Nat :=
  match furthest with
  | none => offset
  | some marker => max marker offset

/-- A marker that is not further leaves the offset the deepest. -/
theorem deepest_of_le {furthest : Option Nat} {offset : Nat}
    (near : ∀ mark ∈ furthest, mark ≤ offset) : deepest furthest offset = offset := by
  cases furthest with
  | none => rfl
  | some mark => exact Nat.max_eq_right (near mark rfl)

/-- Consumes one character. At the end of the source the cursor stays and the marker still
moves. -/
def advance (state : State) : State :=
  { state with
    cursor := state.cursor + (state.peek.map Char.utf8Size).getD 0
    furthest := some (deepest state.furthest state.cursor) }

def rewind (state : State) (cursor : Nat) : State := { state with cursor }

/-- The source between two cursors. -/
def between? (before after : State) : Option String :=
  Text.slice? before.source before.cursor after.cursor

/-- The characters of the source before the cursor and those from it on. -/
structure Splits (state : State) (front rest : List Char) : Prop where
  source : state.source.toList = front ++ rest
  cursor : state.cursor = Text.size front

theorem splits_start (source : String) : (start source).Splits [] source.toList := ⟨rfl, rfl⟩

namespace Splits

variable {state before after : State} {front middle rest : List Char} {char : Char}

theorem peek (splits : state.Splits front rest) : state.peek = rest.head? := by
  rw [State.peek, splits.cursor, Text.charAt?_eq_head? splits.source]

theorem advance (splits : state.Splits front (char :: rest)) :
    state.advance.Splits (front ++ [char]) rest := by
  refine ⟨by simpa [State.advance] using splits.source, ?_⟩
  simp [State.advance, splits.peek, splits.cursor]

theorem advance_end (splits : state.Splits front []) : state.advance.Splits front [] := by
  refine ⟨splits.source, ?_⟩
  simp [State.advance, splits.peek, splits.cursor]

theorem rewind (splits : before.Splits front rest) (same : after.source = before.source) :
    (after.rewind before.cursor).Splits front rest :=
  ⟨(congrArg String.toList same).trans splits.source, splits.cursor⟩

/-- Places in the same text are places in the same source. -/
theorem source_eq (start : before.Splits front (middle ++ rest))
    (stop : after.Splits (front ++ middle) rest) : after.source = before.source := by
  apply String.toList_injective
  rw [stop.source, start.source, List.append_assoc]

/-- Another state of the source with its cursor at the same place. -/
theorem unmoved (splits : before.Splits front rest) (same : after.source = before.source)
    (clean : after.cursor = before.cursor) : after.Splits front rest :=
  ⟨(congrArg String.toList same).trans splits.source, clean.trans splits.cursor⟩

theorem between? (start : before.Splits front (middle ++ rest))
    (stop : after.Splits (front ++ middle) rest) :
    before.between? after = some (String.ofList middle) := by
  rw [State.between?, start.cursor, stop.cursor, Text.size_append]
  exact Text.slice?_eq_some (by rw [start.source, List.append_assoc])

theorem rest? (splits : state.Splits front rest) : state.rest? = some (String.ofList rest) := by
  rw [State.rest?, Text.drop?, splits.cursor, ← Text.size_toList, splits.source,
    Text.size_append]
  exact Text.slice?_eq_some (by rw [splits.source, List.append_nil])

theorem atEnd (splits : state.Splits front rest) : state.atEnd ↔ rest = [] := by
  have length : state.source.utf8ByteSize = Text.size front + Text.size rest := by
    rw [← Text.size_toList, splits.source, Text.size_append]
  rw [← Text.size_eq_zero, State.atEnd, decide_eq_true_iff, length, splits.cursor]
  omega

end Splits

end State

end CommittedChoice
