/-! UTF-16 code units. A character above U+FFFF is a pair of surrogates, a high one and a low one;
a surrogate without its partner is read as the replacement character. -/
namespace CommittedChoice.Text.Utf16

def isHighSurrogate (unit : UInt16) : Bool := 0xd800 ≤ unit && unit < 0xdc00

def isLowSurrogate (unit : UInt16) : Bool := 0xdc00 ≤ unit && unit < 0xe000

def isSurrogate (unit : UInt16) : Bool := isHighSurrogate unit || isLowSurrogate unit

def replacement : Char := '\ufffd'

def encode (char : Char) : List UInt16 :=
  if char.toNat < 0x10000 then
    [UInt16.ofNat char.toNat]
  else
    [UInt16.ofNat (0xd800 + (char.toNat - 0x10000) / 0x400),
      UInt16.ofNat (0xdc00 + (char.toNat - 0x10000) % 0x400)]

/-- The character of a high surrogate and the low surrogate after it. -/
def ofPair (high low : UInt16) : Char :=
  Char.ofNat (0x10000 + (high.toNat - 0xd800) * 0x400 + (low.toNat - 0xdc00))

def decode : List UInt16 → List Char
  | [] => []
  | [unit] => [if isSurrogate unit then replacement else Char.ofNat unit.toNat]
  | unit :: next :: units =>
    if isHighSurrogate unit && isLowSurrogate next then
      ofPair unit next :: decode units
    else if isSurrogate unit then
      replacement :: decode (next :: units)
    else
      Char.ofNat unit.toNat :: decode (next :: units)

end CommittedChoice.Text.Utf16
