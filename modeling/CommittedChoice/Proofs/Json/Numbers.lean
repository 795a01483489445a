import CommittedChoice.Json.Syntax
import CommittedChoice.Proofs.Json.Derivation
import CommittedChoice.Proofs.Locality.Grammar
import CommittedChoice.Proofs.Reading.Characters

/-! Number texts. The grammar takes one as far as it goes, so what comes after it must not go on
with it; and it has read one whenever it succeeds. -/
namespace CommittedChoice.Json

variable {ι : Type} {τ : ι → Type} {call : (name : ι) → Parser (τ name)} {limit : Nat}
  {convert : String → Option Number} {text left : List Char} {char : Char}

/-- What cannot go on with a number before it. -/
def NumberEnd (left : List Char) : Prop :=
  ∀ char ∈ left.head?, ¬char.isDigit ∧ char ≠ '.' ∧ char ≠ 'e' ∧ char ≠ 'E'

theorem isDigit_toNat (digit : char.isDigit) : 0x30 ≤ char.toNat ∧ char.toNat ≤ 0x39 := by
  have same : char.toNat = char.val.toNat := rfl
  simp only [Char.isDigit, Bool.and_eq_true, decide_eq_true_eq, ge_iff_le,
    UInt32.le_iff_toNat_le] at digit
  rw [same]
  exact digit

theorem mem_nonzero (digit : char.isDigit) (nonzero : char ≠ '0') :
    char ∈ "123456789".toList := by
  have small : char.toNat < 0x3a := Nat.lt_succ_of_le (isDigit_toNat digit).2
  have table : ∀ code < 0x3a, (Char.ofNat code).isDigit → Char.ofNat code ≠ '0' →
      Char.ofNat code ∈ "123456789".toList := by decide
  exact Text.forall_below (P := fun char => char.isDigit → char ≠ '0' →
    char ∈ "123456789".toList) table small digit nonzero

theorem nonzero_spec : ∀ char ∈ "123456789".toList, char.isDigit ∧ char ≠ '0' := by simp

theorem WholeText.head (whole : WholeText text) : ∃ first rest, text = first :: rest ∧
    first.isDigit := by
  cases whole with
  | zero => exact ⟨'0', [], rfl, rfl⟩
  | positive _ digit _ => exact ⟨_, _, rfl, digit⟩

theorem NumberText.head (shape : NumberText text) : ∃ first rest, text = first :: rest ∧
    (first = '-' ∨ first.isDigit) := by
  cases shape with
  | mk signed digits _ _ =>
    rcases signed with rfl | rfl
    · obtain ⟨first, rest, rfl, digit⟩ := digits.head
      exact ⟨first, _, rfl, .inr digit⟩
    · exact ⟨'-', _, rfl, .inl rfl⟩

/-- An exponent, or else what comes after the number, begins with no digit and no point. -/
theorem ExponentText.head (exponent : ExponentText text) (stop : NumberEnd left) :
    ∀ char ∈ (text ++ left).head?, ¬char.isDigit ∧ char ≠ '.' := by
  cases exponent with
  | none => exact fun char head => ⟨(stop char head).1, (stop char head).2.1⟩
  | some marked =>
    apply Text.forall_head
    rcases marked with rfl | rfl <;> decide

theorem FractionText.head {exponent : List Char} (fraction : FractionText text)
    (known : ExponentText exponent) (stop : NumberEnd left) :
    ∀ char ∈ (text ++ (exponent ++ left)).head?, ¬char.isDigit := by
  cases fraction with
  | none => exact fun char head => (known.head stop char head).1
  | some => exact Text.forall_head (by decide) _

theorem takes_wholePart (whole : WholeText text) (stop : ∀ char ∈ left.head?, ¬char.isDigit)
    (rounds : text.length ≤ limit) :
    ((wholePart : Grammar τ Unit).parser call limit).Takes text left (.success ()) := by
  cases whole with
  | zero => exact (Grammar.takes_char.map fun _ => ()).orElse
  | @positive first digits nonzero digit others =>
    have refused : (Parser.map (fun _ => ()) ((Grammar.char '0' : Grammar τ Char).parser call limit)
        ).Refuses (first :: digits ++ left) :=
      (Grammar.refuses_char (by simpa using nonzero)).map _
    have taken : (Parser.seqRight ((Grammar.oneOf "123456789" : Grammar τ Char).parser call limit)
        ((Grammar.many .digit : Grammar τ _).parser call limit)).Takes ([first] ++ digits) left
        (.success digits) :=
      (Grammar.takes_oneOf (mem_nonzero digit nonzero)).seqRight
        (Parser.takes_run "digit" others stop rounds)
    exact .orElse_next refused (taken.map fun _ => ())

theorem takes_sign (signed : text = [] ∨ text = ['-']) (digit : ∀ char ∈ left.head?, char.isDigit) :
    ((Grammar.optional (.char '-') : Grammar τ Unit).parser call limit).Takes text left
      (.success ()) := by
  rcases signed with rfl | rfl
  · refine .optional_none (Grammar.refuses_char fun head => ?_)
    exact absurd (digit '-' head) (by decide)
  · exact Grammar.takes_char.optional

theorem takes_fraction (known : FractionText text)
    (stop : ∀ char ∈ left.head?, ¬char.isDigit ∧ char ≠ '.') (rounds : text.length ≤ limit) :
    ((Grammar.optional fraction : Grammar τ Unit).parser call limit).Takes text left
      (.success ()) := by
  have apart : ∀ char ∈ left.head?, ¬char.isDigit := fun char head => (stop char head).1
  cases known with
  | none =>
    refine .optional_none (Parser.Refuses.seqRight (Grammar.refuses_char fun head => ?_))
    exact (stop '.' head).2 rfl
  | @some digits known =>
    obtain ⟨first, rest, rfl⟩ := List.exists_cons_of_ne_nil known.1
    have accepted := List.forall_mem_cons.mp known.2
    simp only [List.length_cons] at rounds
    have taken : ((Grammar.many1 .digit : Grammar τ _).parser call limit).Takes (first :: rest)
        left (.success (first :: rest)) :=
      Parser.takes_run1 "digit" accepted.1 accepted.2 apart (by omega)
    exact (Grammar.takes_char.seqRight taken).optional

theorem takes_exponent (known : ExponentText text) (stop : NumberEnd left)
    (rounds : text.length ≤ limit) :
    ((Grammar.optional exponent : Grammar τ Unit).parser call limit).Takes text left
      (.success ()) := by
  have apart : ∀ char ∈ left.head?, ¬char.isDigit := fun char head => (stop char head).1
  cases known with
  | none =>
    refine .optional_none (Parser.Refuses.seqRight (Parser.Refuses.seqRight
      (Grammar.refuses_oneOf fun char head => ?_)))
    simpa using (stop char head).2.2
  | @some letter sign digits marked signed known =>
    obtain ⟨first, rest, rfl⟩ := List.exists_cons_of_ne_nil known.1
    have accepted := List.forall_mem_cons.mp known.2
    simp only [List.length_append, List.length_cons] at rounds
    have taken : ((Grammar.many1 .digit : Grammar τ _).parser call limit).Takes (first :: rest)
        left (.success (first :: rest)) :=
      Parser.takes_run1 "digit" accepted.1 accepted.2 apart (by omega)
    have taken_sign : ((Grammar.optional (.oneOf "+-") : Grammar τ Unit).parser call limit).Takes
        sign (first :: rest ++ left) (.success ()) := by
      rcases signed with rfl | rfl | rfl
      · have digit : first ∉ "+-".toList := by
          have signs : ∀ char ∈ "+-".toList, ¬char.isDigit := by simp
          exact fun member => signs first member accepted.1
        exact .optional_none (Grammar.refuses_oneOf (Text.forall_head digit _))
      · exact (Grammar.takes_oneOf (by decide)).optional
      · exact (Grammar.takes_oneOf (by decide)).optional
    have taken_letter : ((Grammar.oneOf "eE" : Grammar τ Char).parser call limit).Takes [letter]
        (sign ++ (first :: rest ++ left)) (.success letter) :=
      Grammar.takes_oneOf (by simpa using marked)
    exact ((taken_letter.seqRight taken_sign).seqRight taken).optional

/-- The loops for digits stop at the first character that cannot go on with the number. -/
theorem takes_numberLiteral (shape : NumberText text) (stop : NumberEnd left)
    (rounds : text.length ≤ limit) :
    ((numberLiteral : Grammar τ String).parser call limit).Takes text left
      (.success (String.ofList text)) := by
  cases shape with
  | @mk sign whole decimal scientific signed digits decimals power =>
    simp only [List.length_append] at rounds
    have leading : ∀ char ∈ (whole ++ (decimal ++ (scientific ++ left))).head?, char.isDigit := by
      obtain ⟨first, rest, rfl, digit⟩ := digits.head
      exact Text.forall_head digit _
    have taken_sign : ((Grammar.optional (.char '-') : Grammar τ Unit).parser call limit).Takes
        sign (whole ++ (decimal ++ (scientific ++ left))) (.success ()) :=
      takes_sign signed leading
    have taken_whole : ((wholePart : Grammar τ Unit).parser call limit).Takes whole
        (decimal ++ (scientific ++ left)) (.success ()) :=
      takes_wholePart digits (decimals.head power stop) (by omega)
    have taken_fraction : ((Grammar.optional fraction : Grammar τ Unit).parser call limit).Takes
        decimal (scientific ++ left) (.success ()) :=
      takes_fraction decimals (power.head stop) (by omega)
    have taken_exponent : ((Grammar.optional exponent : Grammar τ Unit).parser call limit).Takes
        scientific left (.success ()) :=
      takes_exponent power stop (by omega)
    exact (((taken_sign.seqRight taken_whole).seqRight taken_fraction).seqRight
      taken_exponent).recognize

theorem takes_number {value : Number} (shape : NumberText text)
    (converted : convert (String.ofList text) = some value) (stop : NumberEnd left)
    (rounds : text.length ≤ limit) :
    ((numberText convert : Grammar τ Json).parser call limit).Takes text left
      (.success (.number value)) := by
  have known : ((numberOf convert (String.ofList text) : Grammar τ Json).parser call limit).Takes []
      left (.success (.number value)) := by
    rw [numberOf, converted]
    exact Parser.takes_pure _ _
  have literal : ((numberLiteral : Grammar τ String).parser call limit).Takes text ([] ++ left)
      (.success (String.ofList text)) :=
    takes_numberLiteral shape stop rounds
  rw [← List.append_nil text]
  exact (literal.bind known).label "number"

/-- A number begins with a sign or a digit. -/
theorem refuses_numberLiteral (other : ∀ char ∈ text.head?, char ≠ '-' ∧ ¬char.isDigit) :
    ((numberLiteral : Grammar τ String).parser call limit).Refuses text := by
  have unsigned : (Parser.optional ((Grammar.char '-' : Grammar τ Char).parser call limit)).Takes
      [] text (.success ()) :=
    .optional_none (Grammar.refuses_char fun head => (other '-' head).1 rfl)
  have zero : (Parser.map (fun _ => ()) ((Grammar.char '0' : Grammar τ Char).parser call limit)
      ).Refuses text :=
    (Grammar.refuses_char fun head => (other '0' head).2 (by decide)).map _
  have positive : (Parser.map (fun _ => ()) (Parser.seqRight
      ((Grammar.oneOf "123456789" : Grammar τ Char).parser call limit)
      ((Grammar.many .digit : Grammar τ _).parser call limit))).Refuses text := by
    refine (Parser.Refuses.seqRight (Grammar.refuses_oneOf fun char head member => ?_)).map _
    exact (other char head).2 (nonzero_spec char member).1
  obtain ⟨expected, fails⟩ := zero.orElse positive
  have started : (Parser.seqRight (Parser.optional ((Grammar.char '-' : Grammar τ Char).parser call
      limit)) ((wholePart : Grammar τ Unit).parser call limit)).Refuses text :=
    ⟨expected, unsigned.seqRight fails⟩
  exact started.seqRight.seqRight.recognize

theorem refuses_number (other : ∀ char ∈ text.head?, char ≠ '-' ∧ ¬char.isDigit) :
    ((numberText convert : Grammar τ Json).parser call limit).Refuses text :=
  (refuses_numberLiteral other).bind.label _

theorem yields_digits : ((Grammar.many1 .digit : Grammar τ _).parser call limit).Yields
    fun _ text => Digits text :=
  (Parser.yields_run1 "digit" limit).mono fun _ _ known => known.2

section Reading

variable (calls : ∀ name, (call name).Local)
include calls

theorem yields_wholePart :
    ((wholePart : Grammar τ Unit).parser call limit).Yields fun _ text => WholeText text := by
  have zero : (Parser.map (fun _ => ()) ((Grammar.char '0' : Grammar τ Char).parser call limit)
      ).Yields fun _ text => WholeText text := by
    refine .map (Grammar.yields_char.mono ?_)
    rintro _ _ ⟨rfl, rfl⟩
    exact .zero
  have positive : (Parser.map (fun _ => ()) (Parser.seqRight
      ((Grammar.oneOf "123456789" : Grammar τ Char).parser call limit)
      ((Grammar.many .digit : Grammar τ _).parser call limit))).Yields
      fun _ text => WholeText text := by
    refine .map (Grammar.yields_oneOf.seqRight ?_)
    rintro first _ ⟨member, rfl⟩
    obtain ⟨digit, nonzero⟩ := nonzero_spec first member
    exact (Parser.yields_run "digit" limit).mono fun _ _ known => .positive nonzero digit known.2
  exact zero.orElse positive ((Grammar.parser_local calls limit (.char '0')).map _)

theorem yields_fraction :
    ((Grammar.optional fraction : Grammar τ Unit).parser call limit).Yields
      fun _ text => FractionText text := by
  refine .optional (Grammar.yields_char.seqRight ?_) .none (Grammar.parser_local calls limit _)
  rintro _ _ ⟨rfl, rfl⟩
  exact yields_digits.mono fun _ _ known => .some known

/-- The letter of an exponent and its sign. -/
theorem yields_mark : (Parser.seqRight ((Grammar.oneOf "eE" : Grammar τ Char).parser call limit)
    ((Grammar.optional (.oneOf "+-") : Grammar τ Unit).parser call limit)).Yields
    fun _ text => ∃ letter sign, text = letter :: sign ∧ (letter = 'e' ∨ letter = 'E') ∧
      (sign = [] ∨ sign = ['+'] ∨ sign = ['-']) := by
  have signed : ((Grammar.optional (.oneOf "+-") : Grammar τ Unit).parser call limit).Yields
      fun _ sign => sign = [] ∨ sign = ['+'] ∨ sign = ['-'] := by
    refine .optional (Grammar.yields_oneOf.mono ?_) (.inl rfl) (Grammar.parser_local calls limit _)
    rintro sign _ ⟨member, rfl⟩
    simpa using member
  apply Grammar.yields_oneOf.seqRight
  rintro letter _ ⟨member, rfl⟩
  exact signed.mono fun _ sign known => ⟨letter, sign, rfl, by simpa using member, known⟩

theorem yields_exponent :
    ((Grammar.optional exponent : Grammar τ Unit).parser call limit).Yields
      fun _ text => ExponentText text := by
  refine .optional ((yields_mark calls).seqRight ?_) .none (Grammar.parser_local calls limit _)
  rintro _ _ ⟨letter, sign, rfl, letters, signs⟩
  exact yields_digits.mono fun _ _ known => .some letters signs known

theorem yields_sign : ((Grammar.optional (.char '-') : Grammar τ Unit).parser call limit).Yields
    fun _ sign => sign = [] ∨ sign = ['-'] := by
  refine .optional (Grammar.yields_char.mono ?_) (.inl rfl) (Grammar.parser_local calls limit _)
  rintro _ _ ⟨rfl, rfl⟩
  exact .inr rfl

theorem yields_integer :
    ((Grammar.seqRight (.optional (.char '-')) wholePart : Grammar τ Unit).parser call limit).Yields
      fun _ text => ∃ sign whole, text = sign ++ whole ∧ (sign = [] ∨ sign = ['-']) ∧
        WholeText whole :=
  (yields_sign calls).seqRight fun _ sign signed => (yields_wholePart calls).mono
    fun _ whole digits => ⟨sign, whole, rfl, signed, digits⟩

theorem yields_decimal :
    ((Grammar.seqRight (.seqRight (.optional (.char '-')) wholePart) (.optional fraction) :
      Grammar τ Unit).parser call limit).Yields fun _ text => ∃ sign whole decimal,
        text = sign ++ whole ++ decimal ∧ (sign = [] ∨ sign = ['-']) ∧ WholeText whole ∧
          FractionText decimal := by
  apply (yields_integer calls).seqRight
  rintro _ _ ⟨sign, whole, rfl, signed, digits⟩
  exact (yields_fraction calls).mono fun _ decimal decimals =>
    ⟨sign, whole, decimal, rfl, signed, digits, decimals⟩

theorem yields_numberLiteral :
    ((numberLiteral : Grammar τ String).parser call limit).Yields
      fun literal text => literal = String.ofList text ∧ NumberText text := by
  refine .recognize ((yields_decimal calls).seqRight ?_)
  rintro _ _ ⟨sign, whole, decimal, rfl, signed, digits, decimals⟩
  exact (yields_exponent calls).mono fun _ scientific power =>
    ⟨rfl, .mk signed digits decimals power⟩

theorem yields_number : ((numberText convert : Grammar τ Json).parser call limit).Yields
    fun value text => ∃ number, value = .number number ∧ NumberText text ∧
      convert (String.ofList text) = some number := by
  refine .label ((yields_numberLiteral calls).bind ?_)
  rintro _ text ⟨rfl, shape⟩
  rw [numberOf]
  cases converted : convert (String.ofList text) with
  | none => exact Parser.yields_fail _
  | some number =>
    refine Parser.yields_pure ⟨number, rfl, ?_⟩
    rw [List.append_nil]
    exact ⟨shape, converted⟩

end Reading

end CommittedChoice.Json
