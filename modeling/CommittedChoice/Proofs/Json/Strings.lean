import CommittedChoice.Json.Syntax
import CommittedChoice.Proofs.Json.Surrogates
import CommittedChoice.Proofs.Locality.Grammar
import CommittedChoice.Proofs.Reading.Characters

/-! String texts. The grammar takes every one of them for the string it denotes and has read one
whenever it succeeds; a string spelled character by character is a string text that denotes it. -/
namespace CommittedChoice.Json

variable {ι : Type} {τ : ι → Type} {call : (name : ι) → Parser (τ name)} {limit : Nat}
  {text left : List Char} {char : Char}

theorem hexDigits_spec : ∀ digit ∈ hexDigits,
    Text.isHexDigit digit.1 ∧ Fragment.hexValue digit.1 = digit.2 := by decide

theorem mem_hexDigits {char : Char} (digit : Text.isHexDigit char) :
    (char, Fragment.hexValue char) ∈ hexDigits := by
  have small : char.toNat < 0x80 := by
    simp only [Text.isHexDigit, Char.isDigit, Bool.or_eq_true, Bool.and_eq_true, decide_eq_true_eq,
      Char.le_def, UInt32.le_iff_toNat_le, ge_iff_le] at digit
    have same : char.toNat = char.val.toNat := rfl
    simp at digit
    omega
  have table : ∀ code < 0x80, Text.isHexDigit (Char.ofNat code) →
      (Char.ofNat code, Fragment.hexValue (Char.ofNat code)) ∈ hexDigits := by decide
  exact Text.forall_below (P := fun char => Text.isHexDigit char →
    (char, Fragment.hexValue char) ∈ hexDigits) table small digit

/-- The digits are folded in the arithmetic of 16 bits, which four of them never leave. -/
theorem ofHexDigits_eq {number : Nat} {digits : List Char} (hex : HexNumber number digits) :
    Fragment.ofHexDigits digits = .unit (UInt16.ofNat number) := by
  obtain ⟨first, second, third, fourth⟩ := hex
  have w := (hexDigits_spec _ first).2
  have x := (hexDigits_spec _ second).2
  have y := (hexDigits_spec _ third).2
  have z := (hexDigits_spec _ fourth).2
  simp only at w x y z
  simp only [Fragment.ofHexDigits, List.foldl_cons, List.foldl_nil, w, x, y, z]
  refine congrArg Fragment.unit (UInt16.toNat_inj.mp ?_)
  simp only [UInt16.toNat_add, UInt16.toNat_mul, UInt16.toNat_ofNat', UInt16.reduceToNat]
  omega

theorem HexNumber.isHexDigit {number : Nat} {digits : List Char} (hex : HexNumber number digits) :
    ∀ char ∈ digits, Text.isHexDigit char := by
  obtain ⟨first, second, third, fourth⟩ := hex
  simp only [List.mem_cons, List.not_mem_nil, or_false]
  rintro char (rfl | rfl | rfl | rfl)
  · exact (hexDigits_spec _ first).1
  · exact (hexDigits_spec _ second).1
  · exact (hexDigits_spec _ third).1
  · exact (hexDigits_spec _ fourth).1

theorem hexNumber_of_digits : ∀ digits : List Char, digits.length = 4 →
    (∀ char ∈ digits, Text.isHexDigit char) → ∃ number, HexNumber number digits
  | [_, _, _, _], _, hex => ⟨_, .mk (mem_hexDigits (hex _ (by simp)))
      (mem_hexDigits (hex _ (by simp))) (mem_hexDigits (hex _ (by simp)))
      (mem_hexDigits (hex _ (by simp)))⟩

theorem shortEscapes_spec : ∀ escape ∈ shortEscapes,
    escape.1 ∈ "\"\\/bfnrt".toList ∧ Fragment.unescape escape.1 = escape.2 := by decide

theorem mem_shortEscapes : ∀ letter ∈ "\"\\/bfnrt".toList,
    (letter, Fragment.unescape letter) ∈ shortEscapes := by
  simp [shortEscapes, Fragment.unescape]

theorem isUnescaped_iff {char : Char} :
    isUnescaped char ↔ ' ' ≤ char ∧ char ≠ '"' ∧ char ≠ '\\' := by
  simp [isUnescaped, and_assoc]

theorem takes_unitEscape {number : Nat} {digits : List Char} (hex : HexNumber number digits) :
    ((unitEscape : Grammar τ Fragment).parser call limit).Takes ('u' :: digits) left
      (.success (.unit (UInt16.ofNat number))) := by
  have four : digits.length = 4 := by
    obtain ⟨_⟩ := hex
    rfl
  have counted : ((Grammar.count 4 .hexDigit : Grammar τ _).parser call limit).Takes digits left
      (.success digits) := by
    rw [← four]
    refine .count (by rw [four]; decide) (.ofChars hex.isHexDigit) ?_
    rintro char _ rest ⟨digit, rfl⟩
    exact (Parser.takes_satisfy digit).label _
  rw [← ofHexDigits_eq hex]
  exact (Grammar.takes_char.seqRight counted).map Fragment.ofHexDigits

theorem refuses_unescaped (special : ¬isUnescaped char) (rest : List Char) :
    ((unescaped : Grammar τ Fragment).parser call limit).Refuses (char :: rest) :=
  ((Parser.refuses_satisfy (Text.forall_head special rest)).label _).map _

theorem takes_fragment {fragment : Fragment} (known : FragmentText fragment text) :
    ((Grammar.orElse unescaped escape : Grammar τ Fragment).parser call limit).Takes text left
      (.success fragment) := by
  have refused : ∀ rest,
      ((unescaped : Grammar τ Fragment).parser call limit).Refuses ('\\' :: rest) :=
    refuses_unescaped (by decide)
  cases known with
  | @unescaped char printable unquoted plain =>
    have accepted : isUnescaped char := isUnescaped_iff.mpr ⟨printable, unquoted, plain⟩
    exact (((Parser.takes_satisfy accepted).label _).map Fragment.char).orElse
  | @short letter char known =>
    obtain ⟨member, same⟩ := shortEscapes_spec _ known
    simp only at member same
    subst same
    have short : ((shortEscape : Grammar τ Fragment).parser call limit).Takes [letter] left
        (.success (.char (Fragment.unescape letter))) :=
      (Grammar.takes_oneOf member).map fun char => Fragment.char (Fragment.unescape char)
    exact .orElse_next (refused _) ((Grammar.takes_char.seqRight short.orElse).label _)
  | @unit number digits hex =>
    have refused' : ((shortEscape : Grammar τ Fragment).parser call limit).Refuses
        ('u' :: digits ++ left) :=
      (Grammar.refuses_oneOf (Text.forall_head (by decide) _)).map _
    exact .orElse_next (refused _)
      ((Grammar.takes_char.seqRight (.orElse_next refused' (takes_unitEscape hex))).label _)

/-- No character or escape of a string begins with a quote. -/
theorem refuses_fragment (rest : List Char) :
    ((Grammar.orElse unescaped escape : Grammar τ Fragment).parser call limit).Refuses
      ('"' :: rest) := by
  have escaped : ((escape : Grammar τ Fragment).parser call limit).Refuses ('"' :: rest) :=
    (Grammar.refuses_char (by simp)).seqRight.label _
  exact (refuses_unescaped (by decide) rest).orElse escaped

theorem FragmentText.ne_nil {fragment : Fragment} (known : FragmentText fragment text) :
    text ≠ [] := by
  cases known <;> simp

theorem takes_string {string : String} (known : StringText string text)
    (rounds : text.length ≤ limit) :
    ((stringText : Grammar τ String).parser call limit).Takes text left (.success string) := by
  obtain ⟨pieces⟩ := known
  rename_i fragments content
  have fewer : fragments.length ≤ content.length :=
    pieces.length_le fun _ _ piece => piece.ne_nil
  have looped : ((Grammar.many (.orElse unescaped escape) : Grammar τ _).parser call limit).Takes
      content ('"' :: left) (.success fragments) := by
    refine .many pieces (fun _ _ _ piece => takes_fragment piece) (refuses_fragment left) ?_
    simp only [List.length_append, List.length_cons] at rounds
    omega
  rw [← Fragment.decode_eq_reading]
  exact (Parser.Takes.between Grammar.takes_char looped Grammar.takes_char).map Fragment.decode

theorem refuses_string (unquoted : text.head? ≠ some '"') :
    ((stringText : Grammar τ String).parser call limit).Refuses text :=
  (Parser.Refuses.between (Grammar.refuses_char unquoted)).map _

theorem yields_unitEscape : ((unitEscape : Grammar τ Fragment).parser call limit).Yields
    fun fragment piece => ∃ number digits, fragment = .unit (UInt16.ofNat number) ∧
      piece = 'u' :: digits ∧ HexNumber number digits := by
  refine .map (Grammar.yields_char.seqRight ?_)
  rintro _ _ ⟨rfl, rfl⟩
  apply ((Parser.yields_class _).count 4).mono
  rintro chars text ⟨four, pieces⟩
  obtain ⟨rfl, hex⟩ := pieces.toChars
  obtain ⟨number, known⟩ := hexNumber_of_digits chars four hex
  exact ⟨number, chars, ofHexDigits_eq known, rfl, known⟩

section Reading

variable (calls : ∀ name, (call name).Local)
include calls

theorem yields_fragment :
    ((Grammar.orElse unescaped escape : Grammar τ Fragment).parser call limit).Yields
      FragmentText := by
  have plain : ((unescaped : Grammar τ Fragment).parser call limit).Yields FragmentText := by
    refine .map ((Parser.yields_class _).mono ?_)
    rintro char _ ⟨accepted, rfl⟩
    obtain ⟨printable, unquoted, plain⟩ := isUnescaped_iff.mp accepted
    exact .unescaped printable unquoted plain
  have short : ((shortEscape : Grammar τ Fragment).parser call limit).Yields
      fun fragment piece => FragmentText fragment ('\\' :: piece) := by
    refine .map (Grammar.yields_oneOf.mono ?_)
    rintro letter _ ⟨member, rfl⟩
    exact .short (mem_shortEscapes letter member)
  have unit : ((unitEscape : Grammar τ Fragment).parser call limit).Yields
      fun fragment piece => FragmentText fragment ('\\' :: piece) := by
    apply yields_unitEscape.mono
    rintro _ _ ⟨number, digits, rfl, rfl, hex⟩
    exact .unit hex
  have escaped : ((escape : Grammar τ Fragment).parser call limit).Yields FragmentText := by
    refine .label (Grammar.yields_char.seqRight ?_)
    rintro _ _ ⟨rfl, rfl⟩
    exact short.orElse unit (Grammar.parser_local calls limit _)
  exact plain.orElse escaped (Grammar.parser_local calls limit _)

theorem yields_string :
    ((stringText : Grammar τ String).parser call limit).Yields StringText := by
  have looped := (yields_fragment calls).many (Grammar.parser_local calls limit _) limit
  refine .map (.between Grammar.yields_char ?_)
  rintro _ _ ⟨rfl, rfl⟩
  refine looped.seqLeft fun fragments content pieces => Grammar.yields_char.mono ?_
  rintro _ _ ⟨rfl, rfl⟩
  rw [Fragment.decode_eq_reading]
  exact .mk pieces

end Reading

theorem HexNumber.lt {number : Nat} {digits : List Char} (hex : HexNumber number digits) :
    number < 0x10000 := by
  have small : ∀ digit ∈ hexDigits, digit.2 < 0x10 := by decide
  obtain ⟨first, second, third, fourth⟩ := hex
  have w := small _ first
  have x := small _ second
  have y := small _ third
  have z := small _ fourth
  simp only at w x y z
  omega

/-- A character spelled in a string is one or two fragments with the units of the character. -/
theorem CharSpelling.fragments {char : Char} (spelled : CharSpelling char text) :
    ∃ fragments, Pieces FragmentText fragments text ∧
      fragments.flatMap Fragment.units = Text.Utf16.encode char := by
  cases spelled with
  | unescaped printable unquoted plain =>
    exact ⟨_, .single (FragmentText.unescaped printable unquoted plain), by simp [Fragment.units]⟩
  | short known => exact ⟨_, .single (FragmentText.short known), by simp [Fragment.units]⟩
  | unit hex =>
    refine ⟨_, .single (FragmentText.unit hex), ?_⟩
    simp [Fragment.units, Text.Utf16.encode, hex.lt]
  | pair wide first second =>
    refine ⟨_, .cons (FragmentText.unit first) (.single (FragmentText.unit second)), ?_⟩
    simp [Fragment.units, Text.Utf16.encode, Nat.not_lt.mpr wide]

theorem CharSpelling.pieces {chars : List Char} (spelled : Pieces CharSpelling chars text) :
    ∃ fragments, Pieces FragmentText fragments text ∧ Fragment.reading fragments = chars := by
  induction spelled with
  | nil => exact ⟨[], .nil, rfl⟩
  | cons first _ ih =>
    obtain ⟨head, headPieces, units⟩ := first.fragments
    obtain ⟨rest, restPieces, rfl⟩ := ih
    exact ⟨head ++ rest, headPieces.append restPieces, Fragment.reading_append units rest⟩

/-- A spelled string is a string text that denotes it. -/
theorem StringSpelling.stringText {string : String} (spelled : StringSpelling string text) :
    StringText string text := by
  obtain ⟨pieces⟩ := spelled
  obtain ⟨fragments, known, same⟩ := CharSpelling.pieces pieces
  have denoted := StringText.mk known
  rwa [same, String.ofList_toList] at denoted

end CommittedChoice.Json
