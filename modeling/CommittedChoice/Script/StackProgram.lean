import CommittedChoice.Sequencer

/-! Programs over a stack of integers, the last one on top. -/
namespace CommittedChoice.Script

abbrev Stack : Type := List Int

namespace Stack

inductive Value where
  | unit
  | integer (n : Int)
  | stack (items : Stack)
  deriving DecidableEq

/-- The integer a value counts as. -/
def Value.toInt : Value → Int
  | .unit => 0
  | .integer n => n
  | .stack items => items.length

inductive View where
  | size
  | sum
  | top
  deriving DecidableEq

def total (stack : Stack) : Int := stack.foldr (· + ·) 0

def View.apply : View → Stack → Value
  | .size, stack => .integer stack.length
  | .sum, stack => .integer (total stack)
  | .top, stack =>
    match stack.getLast? with
    | some n => .integer n
    | none => .unit

inductive Update where
  | reverse
  | clear
  | duplicate
  | double
  deriving DecidableEq

def Update.apply : Update → Stack → Stack
  | .reverse, stack => stack.reverse
  | .clear, _ => []
  | .duplicate, stack => stack ++ stack.getLast?.toList
  | .double, stack => stack.map (· * 2)

def push (n : Int) (stack : Stack) : Value × Stack :=
  (.integer (stack.length + 1), stack ++ [n])

/-- Takes so many integers off the top, or all when there are fewer. -/
def popSum (n : Int) (stack : Stack) : Value × Stack :=
  let kept := stack.length - n.toNat
  (.integer (total (stack.drop kept)), stack.take kept)

mutual

inductive Program where
  | pure (value : Value)
  | get
  | gets (view : View)
  | put (stack : Stack)
  | modify (update : Update)
  | push (n : Int)
  | popSum (n : Int)
  | map (program : Program) (added : Int)
  | bind (program : Program) (next : Next)

/-- What follows a program, made from its value. -/
inductive Next where
  | pure
  | push
  | popSum
  | const (program : Program)
  /-- Pushes ten times the first value plus the second. -/
  | combine (program : Program)

end

abbrev Machine : Type := Sequencer Id Stack Value

def done : Machine := .pure .unit

mutual

def Program.machine : Program → Machine
  | .pure value => .pure value
  | .get => .map .stack .get
  | .gets view => .gets view.apply
  | .put stack => .bind (.put stack) fun _ => done
  | .modify update => .bind (.modify update.apply) fun _ => done
  | .push n => .ofFunction (Stack.push n)
  | .popSum n => .ofFunction (Stack.popSum n)
  | .map program added => .map (fun value => .integer (value.toInt + added)) program.machine
  | .bind program next => .bind program.machine next.machine

def Next.machine : Next → Value → Machine
  | .pure, value => .pure value
  | .push, value => .ofFunction (Stack.push value.toInt)
  | .popSum, value => .ofFunction (Stack.popSum value.toInt)
  | .const program, _ => program.machine
  | .combine program, value =>
    .bind program.machine fun other =>
      .ofFunction (Stack.push (value.toInt * 10 + other.toInt))

end

end Stack

end CommittedChoice.Script
