/-! Classes of characters that grammars name, by listing their members. -/
namespace CommittedChoice.Text

def isHexDigit (char : Char) : Bool :=
  char.isDigit || 'a' ≤ char && char ≤ 'f' || 'A' ≤ char && char ≤ 'F'

def isOctDigit (char : Char) : Bool := '0' ≤ char && char ≤ '7'

/-- Tab, line feed, line tabulation, form feed, carriage return, space, next line and no-break
space. -/
def isSpace (char : Char) : Bool :=
  char ∈ ['\u0009', '\u000a', '\u000b', '\u000c', '\u000d', '\u0020', '\u0085', '\u00a0']

end CommittedChoice.Text
