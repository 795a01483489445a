import CommittedChoice.Grammar.Basic
import CommittedChoice.Text.Classes
import CommittedChoice.Unicode.Classes

/-! Grammars for single characters, white space and line ends. A class with a name fails under
that name; `oneOf`, `noneOf` and `anyChar` have none. -/
namespace CommittedChoice.Grammar

variable {ι : Type} {τ : ι → Type} {α β : Type}

def oneOf (set : String) : Grammar τ Char := .satisfy fun char => char ∈ set.toList

def noneOf (set : String) : Grammar τ Char := .satisfy fun char => char ∉ set.toList

def anyChar : Grammar τ Char := .satisfy fun _ => true

def char (expected : Char) : Grammar τ Char :=
  .label ("\"" ++ expected.toString ++ "\"") (.satisfy (· = expected))

def digit : Grammar τ Char := .label "digit" (.satisfy Char.isDigit)

def hexDigit : Grammar τ Char := .label "hexadecimal digit" (.satisfy Text.isHexDigit)

def octDigit : Grammar τ Char := .label "octal digit" (.satisfy Text.isOctDigit)

def upper : Grammar τ Char := .label "uppercase letter" (.satisfy Unicode.isUppercase)

def lower : Grammar τ Char := .label "lowercase letter" (.satisfy Unicode.isLowercase)

def letter : Grammar τ Char := .label "letter" (.satisfy Unicode.isAlphabetic)

def alphaNum : Grammar τ Char := .label "letter or digit" (.satisfy Unicode.isAlphanumeric)

def space : Grammar τ Char := .label "space" (.satisfy Text.isSpace)

def spaces : Grammar τ Unit := .label "white space" (.map (fun _ => ()) (.many space))

def newline : Grammar τ Char := .label "lf new-line" (char '\n')

def crlf : Grammar τ Char :=
  .label "crlf new-line" (.map (fun _ => '\n') (.attempt (.literal "\r\n")))

def endOfLine : Grammar τ Char := .label "new-line" (.orElse newline crlf)

def tab : Grammar τ Char := .label "tab" (char '\t')

/-- Succeeds at the end of the source and nowhere else. -/
def eof : Grammar τ Unit :=
  .label "end of input" (.notFollowedBy (.attempt (.seqRight .readChar .consumeOne)))

/-- The first grammar where the second does not match after it. -/
def notBefore (g : Grammar τ α) (next : Grammar τ β) : Grammar τ α :=
  .seqLeft g (.notFollowedBy next)

end CommittedChoice.Grammar
