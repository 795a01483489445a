/-! Rounding to binary64. A ratio of naturals goes to the nearest value on the grid, a tie to the
even neighbour, in exact arithmetic. A result is the bit pattern of a value that is not negative;
`none` is a ratio that rounds beyond the largest finite one. -/
namespace CommittedChoice.Binary64

/-- The quotient to the nearest integer, a tie to the even one. -/
def roundDiv (numerator denominator : Nat) : Nat :=
  let quotient := numerator / denominator
  let twice := 2 * (numerator % denominator)
  if twice < denominator ∨ twice = denominator ∧ quotient % 2 = 0 then quotient else quotient + 1

/-- The quotient by a power of two whose exponent may be negative. -/
def roundScaled (numerator denominator : Nat) (exponent : Int) : Nat :=
  if 0 ≤ exponent then
    roundDiv numerator (denominator <<< exponent.toNat)
  else
    roundDiv (numerator <<< (-exponent).toNat) denominator

/-- The largest exponent of a power of two that does not exceed a positive ratio. -/
def floorLog2 (numerator denominator : Nat) : Int :=
  let guess : Int := (Nat.log2 numerator : Int) - Nat.log2 denominator
  let reached :=
    if 0 ≤ guess then denominator <<< guess.toNat ≤ numerator
    else denominator ≤ numerator <<< (-guess).toNat
  if reached then guess else guess - 1

def mantissaBits : Nat := 52

def minExponent : Int := -1022

def infinityBits : Nat := 0x7ff <<< mantissaBits

def signBit : Nat := 1 <<< 63

/-- The grid is that of the normal values, and that of the subnormal ones below the least normal
value. Adding the scaled value to the biased exponent lets a carry move to the next exponent. -/
def ofRatio? (numerator denominator : Nat) : Option Nat :=
  if numerator = 0 then
    some 0
  else
    let exponent := max (floorLog2 numerator denominator) minExponent
    let scaled := roundScaled numerator denominator (exponent - mantissaBits)
    let bits := scaled + (exponent - minExponent).toNat <<< mantissaBits
    if bits < infinityBits then some bits else none

/-- No value halfway between two neighbours has more significant digits than this. -/
def exactDigits : Nat := 768

/-- Digits beyond the exact ones are read as a single 1, whatever they are: enough to tell a value
from the halfway value that its exact digits spell. A text with that many digits is never a tie. -/
def boundDigits (digits : List Nat) : List Nat :=
  if exactDigits < digits.length then digits.take exactDigits ++ [1] else digits

/-- Digits before and after the point, times a power of ten. Zeros at the end of the fraction are
no digits of the value, while zeros at the end of the whole part are. Far outside the range of the
format the answer is known without computing the power. -/
def ofDecimal? (whole fraction : List Nat) (exponent : Int) : Option Nat :=
  let fraction := (fraction.reverse.dropWhile (· = 0)).reverse
  let digits := (whole ++ fraction).dropWhile (· = 0)
  let bounded := boundDigits digits
  let significand := bounded.foldl (fun value digit => value * 10 + digit) 0
  let scale := exponent - fraction.length + (digits.length - bounded.length : Nat)
  let magnitude := bounded.length + scale
  if digits.isEmpty ∨ magnitude < -330 then
    some 0
  else if 310 < magnitude then
    none
  else if 0 ≤ scale then
    ofRatio? (significand * Nat.pow 10 scale.toNat) 1
  else
    ofRatio? significand (Nat.pow 10 (-scale).toNat)

end CommittedChoice.Binary64
