import CommittedChoice.Text.Utf16

/-! The content of a JSON string is a list of fragments: characters that stand for themselves and
UTF-16 code units written as escapes. Neighbouring escapes may make up one character. -/
namespace CommittedChoice.Json

inductive Fragment where
  | char (char : Char)
  | unit (unit : UInt16)
  deriving DecidableEq

namespace Fragment

def units : Fragment → List UInt16
  | .char c => Text.Utf16.encode c
  | .unit u => [u]

def decode (fragments : List Fragment) : String :=
  String.ofList (Text.Utf16.decode (fragments.flatMap units))

/-- The character that a two-character escape stands for. -/
def unescape : Char → Char
  | 'b' => '\u0008'
  | 'f' => '\u000c'
  | 'n' => '\n'
  | 'r' => '\r'
  | 't' => '\t'
  | other => other

def hexValue (digit : Char) : Nat :=
  if digit.isDigit then digit.toNat - '0'.toNat
  else if 'a' ≤ digit then digit.toNat - 'a'.toNat + 10
  else digit.toNat - 'A'.toNat + 10

def ofHexDigits (digits : List Char) : Fragment :=
  .unit (digits.foldl (fun unit digit => unit * 16 + UInt16.ofNat (hexValue digit)) 0)

end Fragment

end CommittedChoice.Json
