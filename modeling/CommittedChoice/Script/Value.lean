import CommittedChoice.Json.Value
import CommittedChoice.Storage

/-! What a scripted grammar yields: one type for the values of all nodes. -/
namespace CommittedChoice.Script

inductive Value where
  | unit
  | char (c : Char)
  | text (s : String)
  | integer (n : Int)
  | list (values : List Value)
  | pair (left right : Value)
  | json (value : Json)

/-- The largest form is a text or a list, with a word to tell the form. -/
instance : Stored Value := ⟨32⟩

namespace Value

mutual

/-- Adds the characters and texts inside a value to the end of a text, and the digits of an
integer. -/
def appendTo (done : String) : Value → String
  | .unit => done
  | .char c => done.push c
  | .text s => done ++ s
  | .integer n => done ++ toString n
  | .list values => appendAllTo done values
  | .pair left right => right.appendTo (left.appendTo done)
  | .json _ => done

def appendAllTo (done : String) : List Value → String
  | [] => done
  | value :: values => appendAllTo (value.appendTo done) values

end

def content (value : Value) : String := value.appendTo ""

/-- The length of a list or a text; any other value counts as one. -/
def count : Value → Nat
  | .list values => values.length
  | .text s => s.length
  | _ => 1

def left : Value → Value
  | .pair l _ => l
  | other => other

def right : Value → Value
  | .pair _ r => r
  | other => other

def successor : Value → Value
  | .integer n => .integer (n + 1)
  | _ => .integer 1

end Value

/-- Functions that a script may map over the value of a node. -/
inductive Transform where
  | content
  | count
  | unit
  | wrap
  | left
  | right
  | successor
  deriving DecidableEq

def Transform.apply : Transform → Value → Value
  | .content, value => .text value.content
  | .count, value => .integer value.count
  | .unit, _ => .unit
  | .wrap, value => .list [value]
  | .left, value => value.left
  | .right, value => value.right
  | .successor, value => value.successor

end CommittedChoice.Script
