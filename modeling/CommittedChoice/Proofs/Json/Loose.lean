import CommittedChoice.Proofs.Diagnosis.Mended
import CommittedChoice.Proofs.Json.Completeness

/-! Documents whatever the range of their numbers. Whether a text is one does not depend on the
conversion of its numbers, as long as none is out of range. A conversion with zero for every number
that is takes all such documents, and makes every run in which no number is out of range. -/
namespace CommittedChoice.Json

variable {ι : Type} {τ : ι → Type} {convert convert' : String → Option Number} {fuel : Nat}
  {quoted : String → List Char → Prop} {value : Json} {text left : List Char}

/-- The conversion, with zero for what is out of range. -/
def orZero (convert : String → Option Number) (text : String) : Option Number :=
  (convert text).or (some (.integer 0))

theorem orZero_eq_some {number : Number} {literal : String}
    (converted : convert literal = some number) : orZero convert literal = some number := by
  rw [orZero, converted]
  rfl

theorem exists_orZero (convert : String → Option Number) (literal : String) :
    ∃ number, orZero convert literal = some number := by
  unfold orZero
  cases convert literal <;> exact ⟨_, rfl⟩

/-- The texts of values, their numbers in range or not. -/
abbrev LooseText (convert : String → Option Number) : Json → List Char → Prop :=
  ValueText (orZero convert) StringText

/-- An array or an object with white space on both sides, for some conversion of its numbers. -/
def DocumentText (text : List Char) : Prop :=
  ∃ convert value, IsStructured value ∧ SpacedText convert StringText value text

theorem Bracketed.mono {α : Type} {R R' : α → List Char → Prop} {first last : Char}
    {values : List α} (known : Bracketed first last R values text)
    (each : ∀ value piece, R value piece → piece.length + 2 ≤ text.length → R' value piece) :
    Bracketed first last R' values text := by
  obtain ⟨opened, listed⟩ := known
  rename_i opening body
  have positive : 0 < opening.length := by
    obtain ⟨_⟩ := opened
    exact Nat.succ_pos _
  simp only [List.length_append, List.length_singleton] at each
  exact .mk opened (listed.mono (fun _ _ known short => each _ _ known (by omega))
    fun _ known _ => known)

theorem Bracketed.exists_values {α β : Type} {R : α → List Char → Prop} {R' : β → List Char → Prop}
    {first last : Char} {values : List α} (known : Bracketed first last R values text)
    (each : ∀ value piece, R value piece → piece.length + 2 ≤ text.length →
      ∃ value', R' value' piece) :
    ∃ values', Bracketed first last R' values' text := by
  obtain ⟨opened, listed⟩ := known.mono fun value piece known short =>
    And.intro known short
  obtain ⟨values', listed'⟩ := listed.exists_values fun value piece read =>
    each value piece read.1 read.2
  exact ⟨values', .mk opened listed'⟩

theorem Lexeme.mono {α β : Type} {R : α → List Char → Prop} {R' : β → List Char → Prop}
    {value : α} {value' : β} (known : Lexeme R value text)
    (each : ∀ piece, R value piece → piece.length ≤ text.length → R' value' piece) :
    Lexeme R' value' text := by
  obtain ⟨read, spaced⟩ := known
  exact .mk (each _ read (by simp)) spaced

/-- A conversion that gives the same numbers and more of them gives the same values. -/
theorem ValueText.widen {bound : Nat}
    (wider : ∀ literal number, convert literal = some number → convert' literal = some number)
    (known : ValueText convert quoted value text) (short : text.length ≤ bound) :
    ValueText convert' quoted value text := by
  induction bound using Nat.strongRecOn generalizing value text with
  | ind bound ih =>
    have lexemes : ∀ value piece, Lexeme (ValueText convert quoted) value piece →
        piece.length + 2 ≤ text.length → Lexeme (ValueText convert' quoted) value piece :=
      fun _ _ known shorter => known.mono fun inner read within =>
        ih inner.length (by omega) read (Nat.le_refl _)
    cases known with
    | null => exact .null
    | falsehood => exact .falsehood
    | truth => exact .truth
    | number shape converted => exact .number shape (wider _ _ converted)
    | string known => exact .string known
    | array items => exact .array (items.mono lexemes)
    | object items collected =>
      refine .object (items.mono ?_) collected
      rintro _ _ ⟨named, separated, valued⟩ shorter
      refine .mk named separated (lexemes _ _ valued ?_)
      simp only [List.length_append] at shorter
      omega

theorem Lexeme.loose (known : Lexeme (ValueText convert StringText) value text) :
    Lexeme (LooseText convert) value text :=
  known.mono fun _ read _ =>
    read.widen (fun _ _ converted => orZero_eq_some converted) (Nat.le_refl _)

/-- A conversion that gives some number for every literal gives some value for every text. -/
theorem ValueText.reconvert {bound : Nat}
    (total : ∀ literal, ∃ number, convert' literal = some number)
    (known : ValueText convert quoted value text) (short : text.length ≤ bound) :
    ∃ value', ValueText convert' quoted value' text ∧
      (IsStructured value → IsStructured value') := by
  induction bound using Nat.strongRecOn generalizing value text with
  | ind bound ih =>
    have lexemes : ∀ value piece, Lexeme (ValueText convert quoted) value piece →
        piece.length + 2 ≤ text.length →
        ∃ value', Lexeme (ValueText convert' quoted) value' piece := by
      rintro value _ ⟨read, spaced⟩ shorter
      rw [List.length_append] at shorter
      obtain ⟨value', read', _⟩ := ih _ (by omega) read (Nat.le_refl _)
      exact ⟨value', .mk read' spaced⟩
    cases known with
    | null => exact ⟨_, .null, id⟩
    | falsehood => exact ⟨_, .falsehood, id⟩
    | truth => exact ⟨_, .truth, id⟩
    | number shape =>
      obtain ⟨number, converted⟩ := total (String.ofList text)
      exact ⟨_, .number shape converted, id⟩
    | string known => exact ⟨_, .string known, id⟩
    | array items =>
      obtain ⟨elements, items'⟩ := items.exists_values lexemes
      exact ⟨_, .array items', id⟩
    | object items =>
      obtain ⟨written, items'⟩ : ∃ written, Bracketed '\x7b' '\x7d'
          (MemberText quoted (Lexeme (ValueText convert' quoted))) written text := by
        refine items.exists_values ?_
        rintro _ _ ⟨named, separated, valued⟩ shorter
        simp only [List.length_append] at shorter
        obtain ⟨value', valued'⟩ := lexemes _ _ valued (by omega)
        exact ⟨_, .mk named separated valued'⟩
      exact ⟨_, .object items' ((ofMembers_eq_iff written).mp rfl), id⟩

theorem DocumentText.loose (known : DocumentText text) (convert : String → Option Number) :
    ∃ value, IsStructured value ∧ SpacedText (orZero convert) StringText value text := by
  obtain ⟨_, value, structured, spaced, read, after⟩ := known
  obtain ⟨value', read', structured'⟩ :=
    read.reconvert (exists_orZero convert) (Nat.le_refl _)
  exact ⟨value', structured' structured, .mk spaced (.mk read' after)⟩

/-- A document but for the end of the source. -/
def bodyText (nested : Grammar τ Json) : Grammar τ Json :=
  .seqRight .spaces (.orElse (objectText nested) (arrayText nested))

/-- Without a range for numbers every document is taken, up to what is no white space. -/
theorem takes_bodyText (known : DocumentText text) (solid : Solid left)
    (ample : text.length < fuel) :
    ∃ value, ((bodyText (.rule ())).run (rules (orZero convert)) fuel).Takes text left
      (.success value) := by
  obtain ⟨value, structured, before, ⟨read, after⟩⟩ := known.loose convert
  rename_i blank inner blank'
  simp only [List.length_append] at ample
  have strings : ∀ string text, StringText string text → StringText string text :=
    fun _ _ known => known
  have begins : ∀ value text, LooseText convert value text → Begins text := ValueText.begins strings
  have covers : Covers (LooseText convert) ((Grammar.rule () : Grammar (fun _ : Unit => Json) Json
      ).parser ((rules (orZero convert)).parser fuel fuel) fuel) (fuel - 1) :=
    covers_rule strings counts_numberText ValueText.form rfl (Nat.sub_le fuel 1) (by omega)
  have spaced : ((Grammar.spaces : Grammar (fun _ : Unit => Json) Unit).parser
      ((rules (orZero convert)).parser fuel fuel) fuel).Takes blank ((inner ++ blank') ++ left)
      (.success ()) := by
    refine Grammar.takes_spaces before ?_ (by omega)
    rw [List.append_assoc]
    exact (begins _ _ read).solid _
  have taken := takes_structured begins covers (by omega) strings (ValueText.form _ _ read)
    structured after solid (by rw [List.length_append]; omega)
  exact ⟨value, spaced.seqRight taken⟩

section Mending

variable {call call' : (name : ι) → Parser (τ name)} {calls : ι → Log} {limit : Nat}
  {nested : Grammar τ Json}

def outOfRange : Expected := .label "number in range"

theorem mends_keyword (word : String) (value : Json) : Parser.Mends outOfRange
    ((keyword word value : Grammar τ Json).parser call' limit)
    ((keyword word value : Grammar τ Json).parser call limit)
    ((keyword word value : Grammar τ Json).events call calls limit) :=
  .refl _ _

/-- Only a number out of range tells the two grammars of numbers apart. -/
theorem mends_number : Parser.Mends outOfRange
    ((numberText (orZero convert) : Grammar τ Json).parser call' limit)
    ((numberText convert : Grammar τ Json).parser call limit)
    ((numberText convert : Grammar τ Json).events call calls limit) := by
  have literal : Parser.Mends outOfRange ((numberLiteral : Grammar τ String).parser call' limit)
      ((numberLiteral : Grammar τ String).parser call limit)
      ((numberLiteral : Grammar τ String).events call calls limit) := .refl _ _
  have counted : ∀ text, Parser.Mends outOfRange
      ((numberOf (orZero convert) text : Grammar τ Json).parser call' limit)
      ((numberOf convert text : Grammar τ Json).parser call limit)
      ((numberOf convert text : Grammar τ Json).events call calls limit) := by
    intro text
    unfold numberOf orZero
    cases convert text with
    | some number => exact .refl _ _
    | none => exact fun state _ _ spared => absurd rfl (spared _ (List.mem_singleton.mpr rfl))
  exact (literal.bind counted).label "number"

section Nested

variable (inner : Parser.Mends outOfRange (nested.parser call' limit) (nested.parser call limit)
  (nested.events call calls limit))
include inner

theorem mends_array : Parser.Mends outOfRange ((arrayText nested).parser call' limit)
    ((arrayText nested).parser call limit) ((arrayText nested).events call calls limit) :=
  .map Json.array (.between (.refl _ _) (.refl _ _) (inner.sepBy (.refl _ _) limit))

theorem mends_object : Parser.Mends outOfRange ((objectText nested).parser call' limit)
    ((objectText nested).parser call limit) ((objectText nested).events call calls limit) := by
  have item : Parser.Mends outOfRange ((member nested).parser call' limit)
      ((member nested).parser call limit) ((member nested).events call calls limit) :=
    .seqPair (.refl _ _) inner
  exact .map ofMembers (.between (.refl _ _) (.refl _ _) (item.sepBy (.refl _ _) limit))

theorem mends_value : Parser.Mends outOfRange
    ((valueText (orZero convert) nested).parser call' limit)
    ((valueText convert nested).parser call limit)
    ((valueText convert nested).events call calls limit) := by
  have chosen : Parser.Mends outOfRange
      ((Grammar.choiceOf ((alternatives (numberText (orZero convert)) nested).map Prod.snd)).parser
        call' limit)
      ((Grammar.choiceOf ((alternatives (numberText convert) nested).map Prod.snd)).parser call
        limit)
      ((Grammar.choiceOf ((alternatives (numberText convert) nested).map Prod.snd)).events call
        calls limit) := by
    refine Grammar.mends_choiceOf (by simp [alternatives]) ?_
    simp only [alternatives, List.map_cons, List.map_nil, List.zip_cons_cons, List.zip_nil_left,
      List.forall_mem_cons, List.not_mem_nil, false_implies, implies_true, and_true]
    exact ⟨mends_keyword _ _, mends_keyword _ _, mends_keyword _ _, mends_object inner,
      mends_array inner, mends_number, .map Json.string (.refl _ _)⟩
  exact (chosen.label "value").seqLeft (.refl _ _)

theorem mends_bodyText : Parser.Mends outOfRange ((bodyText nested).parser call' limit)
    ((bodyText nested).parser call limit) ((bodyText nested).events call calls limit) :=
  .seqRight (.refl _ _) (.orElse (mends_object inner) (mends_array inner))

end Nested

theorem mends_rule (limit depth : Nat) : Parser.Mends outOfRange
    ((rules (orZero convert)).parser limit depth ()) ((rules convert).parser limit depth ())
    ((rules convert).events limit depth ()) := by
  induction depth with
  | zero => exact .refl _ _
  | succ depth ih => exact mends_value ih

/-- Where no number is out of range, a run is one of the loose grammar. -/
theorem mends_run (fuel : Nat) : Parser.Mends outOfRange
    ((bodyText (.rule ())).run (rules (orZero convert)) fuel)
    ((bodyText (.rule ())).run (rules convert) fuel)
    ((bodyText (.rule ())).log (rules convert) fuel) := by
  have inner : Parser.Mends outOfRange
      ((Grammar.rule () : Grammar (fun _ : Unit => Json) Json).parser
        ((rules (orZero convert)).parser fuel fuel) fuel)
      ((Grammar.rule () : Grammar (fun _ : Unit => Json) Json).parser
        ((rules convert).parser fuel fuel) fuel)
      ((Grammar.rule () : Grammar (fun _ : Unit => Json) Json).events
        ((rules convert).parser fuel fuel) ((rules convert).events fuel fuel) fuel) :=
    mends_rule fuel fuel
  exact mends_bodyText inner

end Mending

end CommittedChoice.Json
