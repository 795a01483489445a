import CommittedChoice.Decimal.Binary64
import CommittedChoice.Json.Number

/-! One conversion of number literals. A literal without fraction and exponent is an integer when it
fits 64 bits, unsigned when it is not negative and signed when it is; any other literal is a
binary64 value, and so is minus zero. -/
namespace CommittedChoice.Json

/-- The parts of a literal: its sign, the digits before and after the point and the exponent.
`integral` tells that there is neither a point nor an exponent. -/
structure Literal where
  negative : Bool
  whole : List Nat
  fraction : List Nat
  exponent : Int
  integral : Bool

namespace Literal

def digitsOf (chars : List Char) : List Nat := chars.map fun char => char.toNat - '0'.toNat

def valueOf (digits : List Nat) : Nat := digits.foldl (fun value digit => value * 10 + digit) 0

def exponentOf : List Char → Int
  | '-' :: chars => -valueOf (digitsOf chars)
  | '+' :: chars => valueOf (digitsOf chars)
  | chars => valueOf (digitsOf chars)

/-- Splits a leading minus sign off. -/
def signOf : List Char → Bool × List Char
  | '-' :: chars => (true, chars)
  | chars => (false, chars)

/-- The digits after a leading point, and what follows them. -/
def fractionOf : List Char → List Char × List Char
  | '.' :: chars => chars.span Char.isDigit
  | chars => ([], chars)

/-- Reads the parts of a text that is a number literal. -/
def ofText (text : String) : Literal :=
  let (negative, unsigned) := signOf text.toList
  let (whole, rest) := unsigned.span Char.isDigit
  let (fraction, power) := fractionOf rest
  { negative
    whole := digitsOf whole
    fraction := digitsOf fraction
    exponent := exponentOf (power.drop 1)
    integral := rest.isEmpty }

def doubleBits (negative : Bool) (magnitude : Nat) : UInt64 :=
  UInt64.ofNat (if negative then Binary64.signBit + magnitude else magnitude)

end Literal

namespace Number

def ofInteger? (negative : Bool) (magnitude : Nat) : Option Number :=
  if negative then
    if 0 < magnitude ∧ magnitude ≤ 1 <<< 63 then some (.integer (-magnitude)) else none
  else
    if magnitude < 1 <<< 64 then some (.integer magnitude) else none

def ofDecimal? (literal : Literal) : Option Number := do
  let magnitude ← Binary64.ofDecimal? literal.whole literal.fraction literal.exponent
  return .double (Literal.doubleBits literal.negative magnitude)

/-- The number a literal denotes, or `none` when it is beyond the largest finite value. -/
def ofLiteral? (literal : Literal) : Option Number :=
  if literal.integral then
    (ofInteger? literal.negative (Literal.valueOf literal.whole)).orElse
      fun _ => ofDecimal? literal
  else
    ofDecimal? literal

def ofText? (text : String) : Option Number := ofLiteral? (.ofText text)

end Number

end CommittedChoice.Json
