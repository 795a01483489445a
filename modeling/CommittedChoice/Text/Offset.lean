/-! Byte offsets into a text. Only an offset between two characters has a character or a slice at
it; any other offset answers `none`. The lemmas read a text as the characters before an offset and
those after it. -/
namespace CommittedChoice.Text

def isBoundary (text : String) (offset : Nat) : Bool := String.Pos.Raw.isValid text ⟨offset⟩

/-- The character that starts at the offset. -/
def charAt? (text : String) (offset : Nat) : Option Char := String.Pos.Raw.get? text ⟨offset⟩

def slice? (text : String) (start stop : Nat) : Option String :=
  if start ≤ stop ∧ isBoundary text start ∧ isBoundary text stop then
    some (String.Pos.Raw.extract text ⟨start⟩ ⟨stop⟩)
  else
    none

def drop? (text : String) (offset : Nat) : Option String := slice? text offset text.utf8ByteSize

/-- The number of bytes that characters take. -/
def size : List Char → Nat
  | [] => 0
  | char :: chars => char.utf8Size + size chars

@[simp] theorem size_nil : size [] = 0 := rfl

@[simp] theorem size_cons (char : Char) (chars : List Char) :
    size (char :: chars) = char.utf8Size + size chars := rfl

@[simp] theorem size_append (front back : List Char) :
    size (front ++ back) = size front + size back := by
  induction front with
  | nil => simp
  | cons char chars ih => simp [ih, Nat.add_assoc]

/-- Every character takes a byte. -/
@[simp] theorem size_eq_zero {chars : List Char} : size chars = 0 ↔ chars = [] := by
  cases chars with
  | nil => simp
  | cons char chars =>
    have := char.utf8Size_pos
    simp only [size_cons, reduceCtorEq, iff_false]
    omega

theorem size_dropLast_le (chars : List Char) : size chars.dropLast ≤ size chars := by
  obtain ⟨last, split⟩ := List.dropLast_prefix chars
  have sizes := congrArg size split
  rw [size_append] at sizes
  omega

theorem utf8ByteSize_ofList (chars : List Char) : (String.ofList chars).utf8ByteSize = size chars := by
  induction chars with
  | nil => rfl
  | cons char chars ih =>
    simp only [String.ofList_cons, String.utf8ByteSize_append, String.utf8ByteSize_singleton, ih,
      size_cons]

theorem size_toList (text : String) : size text.toList = text.utf8ByteSize := by
  rw [← utf8ByteSize_ofList, String.ofList_toList]

theorem offset_ne (char : Char) (chars : List Char) (offset : Nat) :
    (⟨offset⟩ : String.Pos.Raw) ≠ ⟨offset + size (char :: chars)⟩ := by
  have := char.utf8Size_pos
  simp only [ne_eq, String.Pos.Raw.mk.injEq, size_cons]
  omega

theorem utf8GetAux?_append (front back : List Char) (offset : Nat) :
    String.Pos.Raw.utf8GetAux? (front ++ back) ⟨offset⟩ ⟨offset + size front⟩ = back.head? := by
  induction front generalizing offset with
  | nil =>
    cases back with
    | nil => rfl
    | cons char chars => exact if_pos rfl
  | cons char chars ih =>
    have next := ih (offset + char.utf8Size)
    rw [Nat.add_assoc] at next
    exact (if_neg (offset_ne char chars offset)).trans next

theorem charAt?_eq_head? {text : String} {front back : List Char}
    (split : text.toList = front ++ back) : charAt? text (size front) = back.head? := by
  have found := utf8GetAux?_append front back 0
  rw [← split, Nat.zero_add] at found
  exact found

theorem isBoundary_iff {text : String} {offset : Nat} :
    isBoundary text offset ↔ ∃ front back, text.toList = front ++ back ∧ size front = offset := by
  rw [isBoundary, String.Pos.Raw.isValid_eq_true_iff, String.Pos.Raw.isValid_iff_exists_append]
  constructor
  · rintro ⟨front, back, rfl, place⟩
    refine ⟨front.toList, back.toList, String.toList_append, ?_⟩
    rw [size_toList]
    exact (congrArg String.Pos.Raw.byteIdx place).symm
  · rintro ⟨front, back, split, rfl⟩
    refine ⟨String.ofList front, String.ofList back, ?_, ?_⟩
    · rw [← String.ofList_append, ← split, String.ofList_toList]
    · exact String.Pos.Raw.ext (utf8ByteSize_ofList front).symm

theorem extractStop_append (front back : List Char) (offset : Nat) :
    String.Pos.Raw.extract.go₂ (front ++ back) ⟨offset⟩ ⟨offset + size front⟩ = front := by
  induction front generalizing offset with
  | nil =>
    cases back with
    | nil => rfl
    | cons char chars => exact if_pos rfl
  | cons char chars ih =>
    have next := ih (offset + char.utf8Size)
    rw [Nat.add_assoc] at next
    exact (if_neg (offset_ne char chars offset)).trans (congrArg (List.cons char) next)

theorem extractStart_append (front back : List Char) (offset : Nat) (stop : String.Pos.Raw) :
    String.Pos.Raw.extract.go₁ (front ++ back) ⟨offset⟩ ⟨offset + size front⟩ stop =
      String.Pos.Raw.extract.go₂ back ⟨offset + size front⟩ stop := by
  induction front generalizing offset with
  | nil =>
    cases back with
    | nil => rfl
    | cons char chars => exact if_pos rfl
  | cons char chars ih =>
    have next := ih (offset + char.utf8Size)
    rw [Nat.add_assoc] at next
    exact (if_neg (offset_ne char chars offset)).trans next

theorem slice?_eq_some {text : String} {front middle back : List Char}
    (split : text.toList = front ++ middle ++ back) :
    slice? text (size front) (size front + size middle) = some (String.ofList middle) := by
  have start : isBoundary text (size front) :=
    isBoundary_iff.mpr ⟨front, middle ++ back, by rw [split, List.append_assoc], rfl⟩
  have stop : isBoundary text (size front + size middle) :=
    isBoundary_iff.mpr ⟨front ++ middle, back, split, size_append front middle⟩
  simp only [slice?, Nat.le_add_right, start, stop, and_self, if_true, Option.some.injEq]
  by_cases empty : middle = []
  · subst empty
    exact if_pos (Nat.le_refl _)
  · have positive : 0 < size middle := Nat.pos_of_ne_zero fun none => empty (size_eq_zero.mp none)
    have cut := extractStart_append front (middle ++ back) 0 ⟨0 + size front + size middle⟩
    rw [extractStop_append, ← List.append_assoc, ← split, Nat.zero_add] at cut
    have ordered : ¬size front ≥ size front + size middle := by omega
    exact (if_neg ordered).trans (congrArg String.ofList cut)

end CommittedChoice.Text
