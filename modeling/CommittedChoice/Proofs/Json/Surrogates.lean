import CommittedChoice.Proofs.Json.Derivation

/-! Decoding the code units of fragments reads the fragments. A character that stands for itself
has either one unit, which is no surrogate, or a pair of its own, so that it never joins an escape
next to it. -/
namespace CommittedChoice

namespace Text.Utf16

variable {unit : UInt16} {units : List UInt16} {char : Char}

theorem isHighSurrogate_iff : isHighSurrogate unit ↔ 0xd800 ≤ unit.toNat ∧ unit.toNat < 0xdc00 := by
  simp [isHighSurrogate, UInt16.le_iff_toNat_le, UInt16.lt_iff_toNat_lt]

theorem isLowSurrogate_iff : isLowSurrogate unit ↔ 0xdc00 ≤ unit.toNat ∧ unit.toNat < 0xe000 := by
  simp [isLowSurrogate, UInt16.le_iff_toNat_le, UInt16.lt_iff_toNat_lt]

theorem isSurrogate_iff : isSurrogate unit ↔ 0xd800 ≤ unit.toNat ∧ unit.toNat < 0xe000 := by
  rw [isSurrogate, Bool.or_eq_true, isHighSurrogate_iff, isLowSurrogate_iff]
  omega

theorem toNat_ofNat {number : Nat} (narrow : number < 0x10000) :
    (UInt16.ofNat number).toNat = number := by
  rw [UInt16.toNat_ofNat']
  exact Nat.mod_eq_of_lt narrow

/-- No character is a surrogate. -/
theorem char_range (char : Char) :
    char.toNat < 0xd800 ∨ 0xe000 ≤ char.toNat ∧ char.toNat < 0x110000 := by
  have := char.valid
  simp only [UInt32.isValidChar, Nat.isValidChar] at this
  have same : char.toNat = char.val.toNat := rfl
  omega

open Json.Fragment (scalar)

theorem scalar_narrow (narrow : char.toNat < 0x10000) : scalar (UInt16.ofNat char.toNat) = char := by
  have range := char_range char
  have lone : ¬isSurrogate (UInt16.ofNat char.toNat) := by
    rw [isSurrogate_iff, toNat_ofNat narrow]
    omega
  rw [scalar, if_neg lone, toNat_ofNat narrow, Char.ofNat_toNat]

/-- The two units of a character above U+FFFF, high and low, make it up again. -/
theorem encode_wide (wide : 0x10000 ≤ char.toNat) : ∃ high low, encode char = [high, low] ∧
    isHighSurrogate high ∧ isLowSurrogate low ∧ ofPair high low = char := by
  have range := char_range char
  have high : (UInt16.ofNat (0xd800 + (char.toNat - 0x10000) / 0x400)).toNat =
      0xd800 + (char.toNat - 0x10000) / 0x400 := toNat_ofNat (by omega)
  have low : (UInt16.ofNat (0xdc00 + (char.toNat - 0x10000) % 0x400)).toNat =
      0xdc00 + (char.toNat - 0x10000) % 0x400 := toNat_ofNat (by omega)
  refine ⟨_, _, by rw [encode, if_neg (by omega)], ?_, ?_, ?_⟩
  · rw [isHighSurrogate_iff, high]
    omega
  · rw [isLowSurrogate_iff, low]
    omega
  · have number : 0x10000 + (0xd800 + (char.toNat - 0x10000) / 0x400 - 0xd800) * 0x400 +
        (0xdc00 + (char.toNat - 0x10000) % 0x400 - 0xdc00) = char.toNat := by omega
    rw [ofPair, high, low, number, Char.ofNat_toNat]

/-- A unit that is not the first of a pair stands for itself. -/
theorem decode_cons (apart : ∀ next ∈ units.head?, ¬(isHighSurrogate unit ∧ isLowSurrogate next)) :
    decode (unit :: units) = scalar unit :: decode units := by
  cases units with
  | nil => rfl
  | cons next units =>
    have unpaired : ¬(isHighSurrogate unit && isLowSurrogate next) = true := by
      simpa using apart next rfl
    rw [decode, if_neg unpaired, scalar]
    split <;> rfl

theorem decode_pair {high low : UInt16} (first : isHighSurrogate high) (second : isLowSurrogate low) :
    decode (high :: low :: units) = ofPair high low :: decode units := by
  rw [decode, if_pos (by rw [first, second]; rfl)]

theorem decode_encode (char : Char) (units : List UInt16) :
    decode (encode char ++ units) = char :: decode units := by
  by_cases narrow : char.toNat < 0x10000
  · have range := char_range char
    have single : encode char = [UInt16.ofNat char.toNat] := by rw [encode, if_pos narrow]
    have apart : ∀ next ∈ units.head?,
        ¬(isHighSurrogate (UInt16.ofNat char.toNat) ∧ isLowSurrogate next) := by
      rintro next _ ⟨high, _⟩
      rw [isHighSurrogate_iff, toNat_ofNat narrow] at high
      omega
    rw [single, List.singleton_append, decode_cons apart, scalar_narrow narrow]
  · obtain ⟨high, low, pair, first, second, same⟩ := encode_wide (Nat.not_lt.mp narrow)
    rw [pair, List.cons_append, List.singleton_append, decode_pair first second, same]

/-- The first unit of a character is no low surrogate. -/
theorem head_encode {next : UInt16} (head : next ∈ (encode char ++ units).head?) :
    ¬isLowSurrogate next := by
  by_cases narrow : char.toNat < 0x10000
  · have range := char_range char
    rw [encode, if_pos narrow] at head
    obtain rfl : UInt16.ofNat char.toNat = next := Option.some.inj head
    rw [isLowSurrogate_iff, toNat_ofNat narrow]
    omega
  · obtain ⟨high, low, pair, first, _⟩ := encode_wide (Nat.not_lt.mp narrow)
    rw [pair] at head
    obtain rfl : high = next := Option.some.inj head
    rw [isHighSurrogate_iff] at first
    rw [isLowSurrogate_iff]
    omega

end Text.Utf16

namespace Json.Fragment

open Text.Utf16

theorem decode_units (fragments : List Fragment) :
    Text.Utf16.decode (fragments.flatMap units) = reading fragments := by
  fun_induction reading fragments with
  | case1 => rfl
  | case2 char fragments ih =>
    rw [List.flatMap_cons, units, decode_encode, ih]
  | case3 high low fragments pair ih =>
    rw [List.flatMap_cons, List.flatMap_cons, units, units, List.singleton_append,
      List.singleton_append, decode_pair pair.1 pair.2, ih]
  | case4 high low fragments apart ih =>
    have unpaired : ∀ next ∈ ((Fragment.unit low :: fragments).flatMap units).head?,
        ¬(isHighSurrogate high ∧ isLowSurrogate next) := by
      intro next head
      obtain rfl : low = next := Option.some.inj head
      exact apart
    rw [List.flatMap_cons, units, List.singleton_append, decode_cons unpaired, ih]
  | case5 u fragments lone ih =>
    have unpaired : ∀ next ∈ (fragments.flatMap units).head?,
        ¬(isHighSurrogate u ∧ isLowSurrogate next) := by
      rintro next head ⟨_, low⟩
      cases fragments with
      | nil => cases head
      | cons fragment fragments =>
        cases fragment with
        | char c => exact head_encode head low
        | unit next => exact lone next fragments rfl
    rw [List.flatMap_cons, units, List.singleton_append, decode_cons unpaired, ih]

theorem decode_eq_reading (fragments : List Fragment) :
    decode fragments = String.ofList (reading fragments) :=
  congrArg String.ofList (decode_units fragments)

/-- A character written in one or two units of its own is read as that character. -/
theorem reading_append {char : Char} {spelled : List Fragment}
    (same : spelled.flatMap units = encode char) (fragments : List Fragment) :
    reading (spelled ++ fragments) = char :: reading fragments := by
  rw [← decode_units, List.flatMap_append, same, decode_encode, decode_units]

end Json.Fragment

end CommittedChoice
