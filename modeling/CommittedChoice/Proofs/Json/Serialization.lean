import CommittedChoice.Proofs.Json.Members

/-! Serialized values are texts of the grammar, in whatever way single characters and numbers are
written. A layout tells the white space in the text; the compact and the indented text of a value
differ in it only. -/
namespace CommittedChoice.Json

/-- The white space before an item so many brackets deep, which is also the one before the bracket
that closes them, and the white space after a colon. -/
structure Layout where
  line : Nat → List Char
  gap : List Char

def Layout.compact : Layout := ⟨fun _ => [], []⟩

/-- A line for each item, two spaces further in than the brackets around it. -/
def Layout.indented : Layout := ⟨fun depth => '\n' :: List.replicate (2 * depth) ' ', [' ']⟩

/-- How the characters of strings and how numbers are written. -/
structure Tokens where
  character : Char → List Char
  number : Number → List Char

/-- A lower case hexadecimal digit. -/
def hexDigit (value : Nat) : Char := "0123456789abcdef".toList.getD value '0'

/-- A character as it is where it can be, and else by its shortest escape. -/
def escapeChar : Char → List Char
  | '"' => ['\\', '"']
  | '\\' => ['\\', '\\']
  | '\u0008' => ['\\', 'b']
  | '\u000c' => ['\\', 'f']
  | '\n' => ['\\', 'n']
  | '\r' => ['\\', 'r']
  | '\t' => ['\\', 't']
  | char =>
    if ' ' ≤ char then [char]
    else '\\' :: 'u' :: ['0', '0', hexDigit (char.toNat / 0x10), hexDigit (char.toNat % 0x10)]

theorem mem_hexDigit : ∀ value < 0x10, (hexDigit value, value) ∈ hexDigits := by decide

theorem charSpelling_escapeChar (char : Char) : CharSpelling char (escapeChar char) := by
  fun_cases escapeChar char with
  | case1 => exact .short (by decide)
  | case2 => exact .short (by decide)
  | case3 => exact .short (by decide)
  | case4 => exact .short (by decide)
  | case5 => exact .short (by decide)
  | case6 => exact .short (by decide)
  | case7 => exact .short (by decide)
  | case8 char quote backslash _ _ _ _ _ printable => exact .unescaped printable quote backslash
  | case9 char _ _ _ _ _ _ _ control =>
    have small : char.toNat < 0x20 := by
      have bound : ¬ 0x20 ≤ char.toNat := control
      exact Nat.lt_of_not_le bound
    have zero : ('0', 0) ∈ hexDigits := by decide
    have hex := HexNumber.mk zero zero (mem_hexDigit (char.toNat / 0x10) (by omega))
      (mem_hexDigit (char.toNat % 0x10) (by omega))
    have number : 0 * 0x1000 + 0 * 0x100 + char.toNat / 0x10 * 0x10 + char.toNat % 0x10 =
        char.toNat := by
      omega
    rw [number] at hex
    exact .unit hex

/-- A serialized value has its members in order, each key once, and numbers that are read back from
what is written for them. -/
inductive Writable (convert : String → Option Number) (tokens : Tokens) : Json → Prop where
  | null : Writable convert tokens .null
  | bool (value : Bool) : Writable convert tokens (.bool value)
  | number {number : Number} (shape : NumberText (tokens.number number))
      (converted : convert (String.ofList (tokens.number number)) = some number) :
      Writable convert tokens (.number number)
  | string (value : String) : Writable convert tokens (.string value)
  | array {elements : List Json} (each : ∀ value ∈ elements, Writable convert tokens value) :
      Writable convert tokens (.array elements)
  | object {members : List (String × Json)}
      (sorted : members.Pairwise fun first second => first.1 < second.1)
      (each : ∀ member ∈ members, Writable convert tokens member.2) :
      Writable convert tokens (.object members)

section Write

variable (layout : Layout) (tokens : Tokens)

def writeString (string : String) : List Char :=
  '"' :: string.toList.flatMap tokens.character ++ ['"']

/-- The items after the first one, and the bracket. -/
def writeRest (depth : Nat) (last : Char) : List (List Char) → List Char
  | [] => layout.line depth ++ [last]
  | item :: items => ',' :: layout.line (depth + 1) ++ item ++ writeRest depth last items

/-- Nothing stands between brackets without items. -/
def writeItems (depth : Nat) (first last : Char) : List (List Char) → List Char
  | [] => [first, last]
  | item :: items =>
    first :: layout.line (depth + 1) ++ item ++ writeRest layout depth last items

mutual

def write (depth : Nat) : Json → List Char
  | .null => "null".toList
  | .bool value => (if value then "true" else "false").toList
  | .number value => tokens.number value
  | .string value => writeString tokens value
  | .array elements => writeItems layout depth '[' ']' (writeElements (depth + 1) elements)
  | .object members =>
    writeItems layout depth '\x7b' '\x7d' (writeMembers (depth + 1) members)

def writeElements (depth : Nat) : List Json → List (List Char)
  | [] => []
  | value :: values => write depth value :: writeElements depth values

def writeMembers (depth : Nat) : List (String × Json) → List (List Char)
  | [] => []
  | (key, value) :: members =>
    (writeString tokens key ++ ':' :: layout.gap ++ write depth value) ::
      writeMembers depth members

end

def serialize (value : Json) : String := String.ofList (write layout tokens 0 value)

end Write

variable {convert : String → Option Number} {layout : Layout} {tokens : Tokens} {depth : Nat}

theorem writeElements_eq (values : List Json) :
    writeElements layout tokens depth values = values.map (write layout tokens depth) := by
  induction values with
  | nil => rfl
  | cons value values ih => rw [writeElements, ih, List.map_cons]

theorem writeMembers_eq (members : List (String × Json)) :
    writeMembers layout tokens depth members = members.map fun member =>
      writeString tokens member.1 ++ ':' :: layout.gap ++ write layout tokens depth member.2 := by
  induction members with
  | nil => rfl
  | cons member members ih => rw [writeMembers, ih, List.map_cons]

/-- A layout puts white space between tokens and nothing else. -/
structure Layout.Spaced (layout : Layout) : Prop where
  line : ∀ depth, Blank (layout.line depth)
  gap : Blank layout.gap

theorem Layout.spaced_compact : compact.Spaced := ⟨fun _ => blank_nil, blank_nil⟩

theorem Layout.spaced_indented : indented.Spaced := by
  constructor
  · intro depth char member
    rcases List.mem_cons.mp member with rfl | member
    · decide
    · rw [List.eq_of_mem_replicate member]
      decide
  · intro char member
    rw [List.mem_singleton.mp member]
    decide

section Items

variable {α : Type} {R : α → List Char → Prop} {first last : Char} {values : List α}
  {text : α → List Char} (spaced : layout.Spaced)
  (more : ∀ value piece blank, R value piece → Blank blank → R value (piece ++ blank))
  (each : ∀ value ∈ values, R value (text value))
include spaced more each

/-- The white space before the bracket is read with the last item. -/
theorem listed_writeRest {value : α} {item : List Char} (known : R value item) :
    ∃ body, item ++ writeRest layout depth last (values.map text) = body ++ [last] ∧
      Listed R (Structural ',') (value :: values) body := by
  induction values generalizing value item with
  | nil =>
    refine ⟨item ++ layout.line depth, by simp [writeRest], ?_⟩
    rw [← List.append_nil (item ++ layout.line depth)]
    exact .cons (more value item _ known (spaced.line depth)) .nil
  | cons next values ih =>
    obtain ⟨body, same, listed⟩ :=
      ih (fun other member => each other (List.mem_cons_of_mem _ member)) (each next (by simp))
    refine ⟨item ++ (',' :: layout.line (depth + 1) ++ body), ?_,
      listed.cons_cons known (.mk (spaced.line (depth + 1)))⟩
    rw [List.map_cons, writeRest, List.append_assoc, same]
    simp

theorem bracketed_writeItems :
    Bracketed first last R values (writeItems layout depth first last (values.map text)) := by
  cases values with
  | nil =>
    have opened : Structural first [first] := .mk blank_nil
    exact .mk opened .nil
  | cons value values =>
    obtain ⟨body, same, listed⟩ : ∃ body, text value ++ writeRest layout depth last
        (values.map text) = body ++ [last] ∧ Listed R (Structural ',') (value :: values) body :=
      listed_writeRest spaced more (fun other member => each other (List.mem_cons_of_mem _ member))
        (each value (by simp))
    rw [List.map_cons, writeItems, List.append_assoc, same, ← List.append_assoc]
    exact .mk (.mk (spaced.line (depth + 1))) listed

end Items

section Spelled

variable (characters : ∀ char, CharSpelling char (tokens.character char))
include characters

theorem stringSpelling_writeString (string : String) :
    StringSpelling string (writeString tokens string) :=
  .mk (.flatMap fun char _ => characters char)

theorem valueText_write (spaced : layout.Spaced) {value : Json}
    (writable : Writable convert tokens value) (depth : Nat) :
    ValueText convert StringSpelling value (write layout tokens depth value) := by
  induction writable generalizing depth with
  | null => exact .null
  | bool value =>
    cases value with
    | false => exact .falsehood
    | true => exact .truth
  | number shape converted => exact .number shape converted
  | string value => exact .string (stringSpelling_writeString characters value)
  | @array elements _ each =>
    have items : ∀ value ∈ elements, Lexeme (ValueText convert StringSpelling) value
        (write layout tokens (depth + 1) value) :=
      fun value member => .bare (each value member (depth + 1))
    rw [write, writeElements_eq]
    exact .array (bracketed_writeItems spaced (fun _ _ _ known blank => known.append blank) items)
  | @object members sorted _ each =>
    have items : ∀ member ∈ members, MemberText StringSpelling
        (Lexeme (ValueText convert StringSpelling)) member
        (writeString tokens member.1 ++ ':' :: layout.gap ++
          write layout tokens (depth + 1) member.2) := by
      intro member known
      have quoted : Lexeme StringSpelling member.1 (writeString tokens member.1) :=
        .bare (stringSpelling_writeString characters member.1)
      exact .mk quoted (.mk spaced.gap) (.bare (each member known (depth + 1)))
    rw [write, writeMembers_eq]
    exact .object (bracketed_writeItems spaced (fun _ _ _ known blank => known.append blank) items)
      (Sorted.collects sorted)

/-- Serialized values are spelled in the text. -/
theorem spacedText_serialize (spaced : layout.Spaced) {value : Json}
    (writable : Writable convert tokens value) :
    SpacedText convert StringSpelling value (serialize layout tokens value).toList := by
  rw [serialize, String.toList_ofList]
  exact .mk blank_nil (.bare (valueText_write characters spaced writable 0))

end Spelled

end CommittedChoice.Json
