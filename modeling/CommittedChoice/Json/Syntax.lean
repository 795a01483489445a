import CommittedChoice.Grammar.Characters
import CommittedChoice.Grammar.Run
import CommittedChoice.Json.Fragment
import CommittedChoice.Json.Value

/-! The grammar of JSON texts. Each token takes the white space after it. `nested` is the grammar
of the values inside an array or an object: a rule that leads back to `valueText`. `convert` makes
a number of a literal's text, or tells that it is out of range. -/
namespace CommittedChoice.Json

variable {ι : Type} {τ : ι → Type} {α : Type}

def lexeme (g : Grammar τ α) : Grammar τ α := .seqLeft g .spaces

def structural (char : Char) : Grammar τ Char := lexeme (.char char)

def isUnescaped (char : Char) : Bool := ' ' ≤ char && char ≠ '"' && char ≠ '\\'

def unescaped : Grammar τ Fragment :=
  .map .char (.label "unescaped character" (.satisfy isUnescaped))

def shortEscape : Grammar τ Fragment :=
  .map (fun char => .char (Fragment.unescape char)) (.oneOf "\"\\/bfnrt")

def unitEscape : Grammar τ Fragment :=
  .map Fragment.ofHexDigits (.seqRight (.char 'u') (.count 4 .hexDigit))

def escape : Grammar τ Fragment :=
  .label "escape sequence" (.seqRight (.char '\\') (.orElse shortEscape unitEscape))

def stringText : Grammar τ String :=
  .map Fragment.decode (.between (.char '"') (.char '"') (.many (.orElse unescaped escape)))

/-- No zero stands before another digit. -/
def wholePart : Grammar τ Unit :=
  .orElse (.map (fun _ => ()) (.char '0'))
    (.map (fun _ => ()) (.seqRight (.oneOf "123456789") (.many .digit)))

def fraction : Grammar τ (List Char) := .seqRight (.char '.') (.many1 .digit)

def exponent : Grammar τ (List Char) :=
  .seqRight (.seqRight (.oneOf "eE") (.optional (.oneOf "+-"))) (.many1 .digit)

def numberLiteral : Grammar τ String :=
  .recognize
    (.seqRight (.seqRight (.seqRight (.optional (.char '-')) wholePart) (.optional fraction))
      (.optional exponent))

def numberOf (convert : String → Option Number) (text : String) : Grammar τ Json :=
  match convert text with
  | some value => .pure (.number value)
  | none => .fail (.label "number in range")

def numberText (convert : String → Option Number) : Grammar τ Json :=
  .label "number" (.bind numberLiteral (numberOf convert))

def arrayText (nested : Grammar τ Json) : Grammar τ Json :=
  .map .array (.between (structural '[') (structural ']') (.sepBy nested (structural ',')))

def member (nested : Grammar τ Json) : Grammar τ (String × Json) :=
  .seqPair (.seqLeft (lexeme stringText) (structural ':')) nested

def objectText (nested : Grammar τ Json) : Grammar τ Json :=
  .map ofMembers
    (.between (structural '\x7b') (structural '\x7d') (.sepBy (member nested) (structural ',')))

def keyword (text : String) (value : Json) : Grammar τ Json :=
  .map (fun _ => value) (.attempt (.literal text))

/-- Any value, and the white space after it. -/
def valueText (convert : String → Option Number) (nested : Grammar τ Json) : Grammar τ Json :=
  lexeme (.label "value" (.choiceOf [
    keyword "false" (.bool false),
    keyword "null" .null,
    keyword "true" (.bool true),
    objectText nested,
    arrayText nested,
    numberText convert,
    .map .string stringText]))

/-- A whole text: an object or an array, with white space on both sides. -/
def document (nested : Grammar τ Json) : Grammar τ Json :=
  .seqLeft (.seqRight .spaces (.orElse (objectText nested) (arrayText nested))) .eof

/-- The one rule of a grammar that holds nothing else: a value. -/
def rules (convert : String → Option Number) : Rules (fun _ : Unit => Json) := fun name =>
  valueText convert (.rule name)

def parse? (convert : String → Option Number) (input : String) : Option (Except Failure Json) :=
  (document (.rule ())).parse (rules convert) (Grammar.ampleFuel 1 input) input

end CommittedChoice.Json
