import CommittedChoice.Json.Value
import CommittedChoice.Json.Fragment
import CommittedChoice.Proofs.Reading.Pieces
import CommittedChoice.Text.Classes

/-! The grammar of JSON texts by itself, as relations between a text and the value it denotes. How
strings are written is a parameter: a string text may hold any escapes, while a spelling writes the
string character by character. What number a literal is converted to is another, and nothing is
assumed of it. -/
namespace CommittedChoice.Json

/-- A run of white space. -/
def Blank (text : List Char) : Prop := ∀ char ∈ text, Text.isSpace char

def Digits (text : List Char) : Prop := text ≠ [] ∧ ∀ char ∈ text, char.isDigit

/-- Hexadecimal digits of either case with their values. -/
def hexDigits : List (Char × Nat) :=
  "0123456789abcdef".toList.zipIdx ++ "ABCDEF".toList.zipIdx 10

/-- The letter of each two-character escape with the character it stands for. -/
def shortEscapes : List (Char × Char) :=
  [('"', '"'), ('\\', '\\'), ('/', '/'), ('b', '\u0008'), ('f', '\u000c'), ('n', '\n'),
    ('r', '\r'), ('t', '\t')]

/-- Four hexadecimal digits and the number they spell. -/
inductive HexNumber : Nat → List Char → Prop where
  | mk {a b c d : Char} {w x y z : Nat} (first : (a, w) ∈ hexDigits) (second : (b, x) ∈ hexDigits)
      (third : (c, y) ∈ hexDigits) (fourth : (d, z) ∈ hexDigits) :
      HexNumber (w * 0x1000 + x * 0x100 + y * 0x10 + z) [a, b, c, d]

/-- One character or escape between the quotes of a string, and the fragment it stands for. -/
inductive FragmentText : Fragment → List Char → Prop where
  | unescaped {char : Char} (printable : ' ' ≤ char) (unquoted : char ≠ '"')
      (plain : char ≠ '\\') : FragmentText (.char char) [char]
  | short {letter char : Char} (known : (letter, char) ∈ shortEscapes) :
      FragmentText (.char char) ['\\', letter]
  | unit {number : Nat} {digits : List Char} (hex : HexNumber number digits) :
      FragmentText (.unit (UInt16.ofNat number)) ('\\' :: 'u' :: digits)

/-- The character a code unit stands for by itself. -/
def Fragment.scalar (unit : UInt16) : Char :=
  if Text.Utf16.isSurrogate unit then Text.Utf16.replacement else Char.ofNat unit.toNat

/-- Fragments read from the left: only an escaped high surrogate with an escaped low one next to it
make up a character together. -/
def Fragment.reading : List Fragment → List Char
  | [] => []
  | .char c :: fragments => c :: reading fragments
  | .unit high :: .unit low :: fragments =>
    if Text.Utf16.isHighSurrogate high ∧ Text.Utf16.isLowSurrogate low then
      Text.Utf16.ofPair high low :: reading fragments
    else
      scalar high :: reading (.unit low :: fragments)
  | .unit u :: fragments => scalar u :: reading fragments

inductive StringText : String → List Char → Prop where
  | mk {fragments : List Fragment} {content : List Char}
      (pieces : Pieces FragmentText fragments content) :
      StringText (String.ofList (Fragment.reading fragments)) ('"' :: content ++ ['"'])

/-- A character written as it is or as one of its escapes. -/
inductive CharSpelling : Char → List Char → Prop where
  | unescaped {char : Char} (printable : ' ' ≤ char) (unquoted : char ≠ '"')
      (plain : char ≠ '\\') : CharSpelling char [char]
  | short {letter char : Char} (known : (letter, char) ∈ shortEscapes) :
      CharSpelling char ['\\', letter]
  | unit {char : Char} {digits : List Char} (hex : HexNumber char.toNat digits) :
      CharSpelling char ('\\' :: 'u' :: digits)
  | pair {char : Char} {high low : List Char} (wide : 0x10000 ≤ char.toNat)
      (first : HexNumber (0xd800 + (char.toNat - 0x10000) / 0x400) high)
      (second : HexNumber (0xdc00 + (char.toNat - 0x10000) % 0x400) low) :
      CharSpelling char ('\\' :: 'u' :: high ++ '\\' :: 'u' :: low)

inductive StringSpelling : String → List Char → Prop where
  | mk {string : String} {content : List Char}
      (pieces : Pieces CharSpelling string.toList content) :
      StringSpelling string ('"' :: content ++ ['"'])

/-- A zero, or digits that begin with another one. -/
inductive WholeText : List Char → Prop where
  | zero : WholeText ['0']
  | positive {first : Char} {digits : List Char} (nonzero : first ≠ '0') (digit : first.isDigit)
      (others : ∀ char ∈ digits, char.isDigit) : WholeText (first :: digits)

inductive FractionText : List Char → Prop where
  | none : FractionText []
  | some {digits : List Char} (known : Digits digits) : FractionText ('.' :: digits)

inductive ExponentText : List Char → Prop where
  | none : ExponentText []
  | some {letter : Char} {sign digits : List Char} (marked : letter = 'e' ∨ letter = 'E')
      (signed : sign = [] ∨ sign = ['+'] ∨ sign = ['-']) (known : Digits digits) :
      ExponentText (letter :: sign ++ digits)

inductive NumberText : List Char → Prop where
  | mk {sign whole fraction exponent : List Char} (signed : sign = [] ∨ sign = ['-'])
      (digits : WholeText whole) (decimal : FractionText fraction)
      (scientific : ExponentText exponent) : NumberText (sign ++ whole ++ fraction ++ exponent)

/-- The text of a token or a value with white space after it. -/
inductive Lexeme {α : Type} (R : α → List Char → Prop) : α → List Char → Prop where
  | mk {text blank : List Char} {value : α} (read : R value text) (after : Blank blank) :
      Lexeme R value (text ++ blank)

/-- A character that stands alone between tokens, with white space after it. -/
inductive Structural (char : Char) : List Char → Prop where
  | mk {blank : List Char} (after : Blank blank) : Structural char (char :: blank)

/-- Items between brackets, with commas between them. -/
inductive Bracketed {α : Type} (first last : Char) (R : α → List Char → Prop) :
    List α → List Char → Prop where
  | mk {opening body : List Char} {values : List α} (opened : Structural first opening)
      (listed : Listed R (Structural ',') values body) :
      Bracketed first last R values (opening ++ body ++ [last])

/-- A key and a value with a colon between them. -/
inductive MemberText (quoted : String → List Char → Prop) (R : Json → List Char → Prop) :
    String × Json → List Char → Prop where
  | mk {key : String} {value : Json} {name colon text : List Char}
      (named : Lexeme quoted key name) (separated : Structural ':' colon) (valued : R value text) :
      MemberText quoted R (key, value) (name ++ colon ++ text)

/-- The members of an object are those written, in the order of their keys, and of each key the
last one. -/
structure Collects (written members : List (String × Json)) : Prop where
  sorted : members.Pairwise fun first second => first.1 < second.1
  last : ∀ key, members.lookup key = written.reverse.lookup key

inductive ValueText (convert : String → Option Number) (quoted : String → List Char → Prop) :
    Json → List Char → Prop where
  | null : ValueText convert quoted .null "null".toList
  | falsehood : ValueText convert quoted (.bool false) "false".toList
  | truth : ValueText convert quoted (.bool true) "true".toList
  | number {value : Number} {text : List Char} (shape : NumberText text)
      (converted : convert (String.ofList text) = some value) :
      ValueText convert quoted (.number value) text
  | string {value : String} {text : List Char} (known : quoted value text) :
      ValueText convert quoted (.string value) text
  | array {text : List Char} {elements : List Json}
      (items : Bracketed '[' ']' (Lexeme (ValueText convert quoted)) elements text) :
      ValueText convert quoted (.array elements) text
  | object {text : List Char} {written members : List (String × Json)}
      (items : Bracketed '\x7b' '\x7d' (MemberText quoted (Lexeme (ValueText convert quoted)))
        written text)
      (collected : Collects written members) : ValueText convert quoted (.object members) text

/-- Arrays and objects. -/
def IsStructured : Json → Prop
  | .array _ | .object _ => True
  | _ => False

/-- A value with white space on both sides. -/
inductive SpacedText (convert : String → Option Number) (quoted : String → List Char → Prop) :
    Json → List Char → Prop where
  | mk {blank text : List Char} {value : Json} (before : Blank blank)
      (read : Lexeme (ValueText convert quoted) value text) :
      SpacedText convert quoted value (blank ++ text)

variable {quoted : String → List Char → Prop} {text blank : List Char}

theorem blank_nil : Blank [] := by
  rintro _ ⟨⟩

theorem Blank.append (spaced : Blank text) (more : Blank blank) : Blank (text ++ blank) := by
  intro char member
  rcases List.mem_append.mp member with first | second
  · exact spaced char first
  · exact more char second

theorem Lexeme.append {α : Type} {R : α → List Char → Prop} {inner : α}
    (known : Lexeme R inner text) (more : Blank blank) : Lexeme R inner (text ++ blank) := by
  obtain ⟨read, spaced⟩ := known
  rw [List.append_assoc]
  exact .mk read (spaced.append more)

theorem MemberText.append {R : Json → List Char → Prop} {member : String × Json}
    (known : MemberText quoted (Lexeme R) member text) (more : Blank blank) :
    MemberText quoted (Lexeme R) member (text ++ blank) := by
  obtain ⟨named, separated, valued⟩ := known
  rw [List.append_assoc]
  exact .mk named separated (valued.append more)

/-- White space may be absent. -/
theorem Lexeme.bare {α : Type} {R : α → List Char → Prop} {inner : α} (known : R inner text) :
    Lexeme R inner text := by
  rw [← List.append_nil text]
  exact .mk known blank_nil

end CommittedChoice.Json
