import CommittedChoice.Proofs.Json.Surrogates

/-! Strings decoded fragment by fragment. A list of fragments may be cut anywhere but inside a pair
of escaped surrogates, and its parts decoded by themselves; so each character in the result comes
from one literal, one pair or one other escape. -/
namespace CommittedChoice

/-- A scalar value is the code of its character. -/
theorem Text.toNat_ofNat_of_isValidChar {number : Nat} (valid : number.isValidChar) :
    (Char.ofNat number).toNat = number := by
  rw [Char.ofNat, dif_pos valid]
  rfl

namespace Text.Utf16

variable {high low unit : UInt16}

/-- The character a pair makes up is the one that is encoded as the pair. -/
theorem encode_ofPair (first : isHighSurrogate high) (second : isLowSurrogate low) :
    encode (ofPair high low) = [high, low] := by
  rw [isHighSurrogate_iff] at first
  rw [isLowSurrogate_iff] at second
  have number : (ofPair high low).toNat =
      0x10000 + (high.toNat - 0xd800) * 0x400 + (low.toNat - 0xdc00) :=
    toNat_ofNat_of_isValidChar (.inr (by omega))
  have upper : 0xd800 + ((ofPair high low).toNat - 0x10000) / 0x400 = high.toNat := by omega
  have lower : 0xdc00 + ((ofPair high low).toNat - 0x10000) % 0x400 = low.toNat := by omega
  rw [encode, if_neg (by omega), upper, lower, UInt16.ofNat_toNat, UInt16.ofNat_toNat]

theorem not_isLowSurrogate (first : isHighSurrogate unit) : ¬isLowSurrogate unit := by
  rw [isHighSurrogate_iff] at first
  rw [isLowSurrogate_iff]
  omega

theorem not_isHighSurrogate (second : isLowSurrogate unit) : ¬isHighSurrogate unit :=
  fun first => not_isLowSurrogate first second

end Text.Utf16

namespace Json.Fragment

open Text.Utf16

variable {fragment : Fragment} {fragments before after : List Fragment} {unit : UInt16}

/-- An escape that is no surrogate stands for its code point. -/
theorem scalar_toNat (lone : ¬isSurrogate unit) : (scalar unit).toNat = unit.toNat := by
  have narrow := unit.toNat_lt
  rw [scalar, if_neg lone]
  rw [isSurrogate_iff] at lone
  exact Text.toNat_ofNat_of_isValidChar (by simp only [Nat.isValidChar]; omega)

/-- An escaped high surrogate before an escaped low one. -/
def pairs : Fragment → Fragment → Bool
  | .unit high, .unit low => isHighSurrogate high && isLowSurrogate low
  | _, _ => false

/-- The number of neighbours that make up one character together. -/
def pairCount (fragments : List Fragment) : Nat :=
  (fragments.zip fragments.tail).countP fun neighbours => pairs neighbours.1 neighbours.2

/-- No pair stands across the border between the two parts. -/
def Apart (before after : List Fragment) : Prop :=
  ∀ last ∈ before.getLast?, ∀ next ∈ after.head?, ¬pairs last next

/-- A literal makes up no character with what stands next to it. -/
theorem apart_char (before : List Fragment) (char : Char) (after : List Fragment) :
    Apart before (.char char :: after) := by
  rintro last _ _ ⟨⟩
  cases last <;> exact Bool.false_ne_true

theorem apart_literal (char : Char) (after : List Fragment) : Apart [.char char] after := by
  rintro _ ⟨⟩ _ _
  exact Bool.false_ne_true

/-- A pair begins with a high surrogate. -/
theorem apart_next (other : ¬isHighSurrogate unit) (after : List Fragment) :
    Apart [.unit unit] after := by
  rintro _ ⟨⟩ next _ paired
  cases next with
  | char => cases paired
  | unit next =>
    obtain ⟨first, _⟩ : isHighSurrogate unit ∧ isLowSurrogate next := by simpa [pairs] using paired
    exact other first

/-- A pair ends with a low surrogate. -/
theorem apart_unit (other : ¬isLowSurrogate unit) (before after : List Fragment) :
    Apart before (.unit unit :: after) := by
  rintro last _ _ ⟨⟩ paired
  cases last with
  | char => cases paired
  | unit last =>
    obtain ⟨_, second⟩ : isHighSurrogate last ∧ isLowSurrogate unit := by simpa [pairs] using paired
    exact other second

theorem apart_unpaired {high low : UInt16}
    (unpaired : ¬(isHighSurrogate high ∧ isLowSurrogate low)) (after : List Fragment) :
    Apart [.unit high] (.unit low :: after) := by
  rintro _ ⟨⟩ _ ⟨⟩
  simpa [pairs] using unpaired

/-- An escape pairs with another escape only. -/
theorem apart_lone (lone : ∀ low others, after = .unit low :: others → False) :
    Apart [.unit unit] after := by
  rintro _ ⟨⟩ next head
  cases next with
  | char => exact Bool.false_ne_true
  | unit low =>
    obtain ⟨others, rfl⟩ := List.head?_eq_some_iff.mp head
    exact (lone low others rfl).elim

theorem Apart.tail (apart : Apart (fragment :: before) after) : Apart before after := by
  intro last member
  refine apart last ?_
  rw [List.getLast?_cons, Option.mem_def.mp member]
  rfl

/-- The border behind the first of several fragments is one between it and the second. -/
theorem Apart.head (apart : Apart (fragment :: before) after)
    (inner : Apart [fragment] before) : Apart [fragment] (before ++ after) := by
  cases before with
  | nil => exact apart
  | cons => exact inner

theorem reading_unit (apart : Apart [.unit unit] fragments) :
    reading (.unit unit :: fragments) = scalar unit :: reading fragments := by
  cases fragments with
  | nil => rfl
  | cons next fragments =>
    cases next with
    | char => rfl
    | unit low =>
      have unpaired : ¬(isHighSurrogate unit ∧ isLowSurrogate low) := by
        simpa [pairs] using apart _ rfl _ rfl
      rw [reading, if_neg unpaired]

theorem reading_apart (apart : Apart before after) :
    reading (before ++ after) = reading before ++ reading after := by
  fun_induction reading before with
  | case1 => rfl
  | case2 char fragments ih => exact congrArg (List.cons char) (ih apart.tail)
  | case3 high low fragments pair ih =>
    rw [List.cons_append, List.cons_append, reading, if_pos pair, ih apart.tail.tail,
      List.cons_append]
  | case4 high low fragments unpaired ih =>
    have inner := apart_unpaired unpaired fragments
    rw [List.cons_append, reading_unit (apart.head inner), ih apart.tail, List.cons_append]
  | case5 high fragments lone ih =>
    rw [List.cons_append, reading_unit (apart.head (apart_lone lone)), ih apart.tail,
      List.cons_append]

theorem pairCount_cons (apart : Apart [fragment] fragments) :
    pairCount (fragment :: fragments) = pairCount fragments := by
  cases fragments with
  | nil => rfl
  | cons next fragments => simpa [pairCount, List.countP_cons] using apart _ rfl _ rfl

theorem pairCount_pair {high low : UInt16} (pair : isHighSurrogate high ∧ isLowSurrogate low)
    (fragments : List Fragment) :
    pairCount (.unit high :: .unit low :: fragments) = pairCount fragments + 1 := by
  have paired : pairs (.unit high) (.unit low) := by simpa [pairs] using pair
  have alone := pairCount_cons (apart_next (not_isHighSurrogate pair.2) fragments)
  simp only [pairCount, List.tail_cons] at alone ⊢
  rw [List.zip_cons_cons, List.countP_cons, alone, if_pos paired]

/-- Of two fragments that make up one character one is left. -/
theorem length_reading (fragments : List Fragment) :
    (reading fragments).length + pairCount fragments = fragments.length := by
  fun_induction reading fragments with
  | case1 => rfl
  | case2 char fragments ih =>
    rw [List.length_cons, List.length_cons, pairCount_cons (apart_literal char fragments)]
    omega
  | case3 high low fragments pair ih =>
    rw [List.length_cons, List.length_cons, List.length_cons, pairCount_pair pair]
    omega
  | case4 high low fragments unpaired ih =>
    rw [List.length_cons, List.length_cons, pairCount_cons (apart_unpaired unpaired fragments)]
    omega
  | case5 high fragments lone ih =>
    rw [List.length_cons, List.length_cons, pairCount_cons (apart_lone lone)]
    omega

theorem decode_apart (apart : Apart before after) :
    decode (before ++ after) = decode before ++ decode after := by
  rw [decode_eq_reading, decode_eq_reading, decode_eq_reading, reading_apart apart,
    String.ofList_append]

/-- What stands between two borders is decoded by itself. -/
theorem decode_between (piece : List Fragment) (left : Apart before (piece ++ after))
    (right : Apart piece after) :
    decode (before ++ (piece ++ after)) = decode before ++ decode piece ++ decode after := by
  rw [decode_apart left, decode_apart right, String.append_assoc]

theorem decode_of_reading {char : Char} (known : reading fragments = [char]) :
    decode fragments = char.toString := by
  rw [decode_eq_reading, known]
  rfl

theorem decode_char (before : List Fragment) (char : Char) (after : List Fragment) :
    decode (before ++ .char char :: after) =
      decode before ++ char.toString ++ decode after := by
  have literal : decode [.char char] = char.toString := decode_of_reading rfl
  rw [← literal]
  exact decode_between [.char char] (apart_char before char after) (apart_literal char after)

theorem decode_surrogates {high low : UInt16} (first : isHighSurrogate high)
    (second : isLowSurrogate low) (before after : List Fragment) :
    decode (before ++ .unit high :: .unit low :: after) =
      decode before ++ (ofPair high low).toString ++ decode after := by
  have paired : decode [.unit high, .unit low] = (ofPair high low).toString :=
    decode_of_reading (if_pos ⟨first, second⟩)
  have left := apart_unit (not_isLowSurrogate first) before (.unit low :: after)
  rw [← paired]
  exact decode_between [.unit high, .unit low] left (apart_next (not_isHighSurrogate second) after)

theorem decode_lone (left : Apart before [.unit unit]) (right : Apart [.unit unit] after) :
    decode (before ++ .unit unit :: after) =
      decode before ++ (scalar unit).toString ++ decode after := by
  have single : decode [.unit unit] = (scalar unit).toString := decode_of_reading rfl
  rw [← single]
  exact decode_between [.unit unit] left right

/-- Fragments are decoded from left to right without regard to code units. A literal stands for
itself wherever it stands, an escaped high surrogate before an escaped low one for the character
that is encoded as the two, any other escaped surrogate for the replacement character, and any
other escape for its code point. -/
theorem decode_each (fragments : List Fragment) :
    decode fragments = String.ofList (reading fragments) ∧
    (decode fragments).length + pairCount fragments = fragments.length ∧
    (∀ before char after, fragments = before ++ .char char :: after →
      decode fragments = decode before ++ char.toString ++ decode after) ∧
    (∀ before high low after, fragments = before ++ .unit high :: .unit low :: after →
      isHighSurrogate high → isLowSurrogate low → ∃ char, encode char = [high, low] ∧
        decode fragments = decode before ++ char.toString ++ decode after) ∧
    (∀ before unit after, fragments = before ++ .unit unit :: after → isSurrogate unit →
      Apart before [.unit unit] → Apart [.unit unit] after →
      decode fragments = decode before ++ replacement.toString ++ decode after) ∧
    ∀ before unit after, fragments = before ++ .unit unit :: after → ¬isSurrogate unit →
      ∃ char : Char, char.toNat = unit.toNat ∧
        decode fragments = decode before ++ char.toString ++ decode after := by
  refine ⟨decode_eq_reading fragments, ?_, ?_, ?_, ?_, ?_⟩
  · rw [decode_eq_reading, String.length_ofList, length_reading]
  · rintro before char after rfl
    exact decode_char before char after
  · rintro before high low after rfl first second
    exact ⟨ofPair high low, encode_ofPair first second, decode_surrogates first second before after⟩
  · rintro before unit after rfl surrogate left right
    rw [decode_lone left right, scalar, if_pos surrogate]
  · rintro before unit after rfl other
    obtain ⟨upper, lower⟩ : ¬isHighSurrogate unit ∧ ¬isLowSurrogate unit := by
      simpa [isSurrogate] using other
    exact ⟨scalar unit, scalar_toNat other,
      decode_lone (apart_unit lower before []) (apart_next upper after)⟩

/-- The literal between the two halves of its own pair keeps them from making up another one. -/
theorem literal_between_halves_decoded :
    let fragments : List Fragment := [.unit 0xd83d, .char '😀', .unit 0xde00]
    decode fragments = decode [.unit 0xd83d] ++ "😀" ++ decode [.unit 0xde00] ∧
      (decode fragments).length + pairCount fragments = 3 ∧
      decode fragments = "\ufffd😀\ufffd" := by
  intro fragments
  have each := decode_each fragments
  exact ⟨each.2.2.1 [.unit 0xd83d] '😀' [.unit 0xde00] rfl, each.2.1, each.1.trans (by decide)⟩

end Json.Fragment

end CommittedChoice
