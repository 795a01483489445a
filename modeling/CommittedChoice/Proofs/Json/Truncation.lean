import Mathlib.Data.List.DropRight
import CommittedChoice.Proofs.Json.Location

/-! Documents that are cut short. A document ends with its bracket, and what stands behind that
bracket is white space: so a text that begins a document is one itself only when it reaches as far
as the bracket. -/
namespace CommittedChoice.Json

variable {convert : String → Option Number} {source : String} {value : Json}
  {text blank rest : List Char}

/-- The text without the white space at its end. -/
def trimEnd (text : List Char) : List Char := text.rdropWhile Text.isSpace

theorem trimEnd_solid {last : Char} (member : last ∈ (trimEnd text).getLast?) :
    ¬Text.isSpace last := by
  obtain ⟨some, rfl⟩ := List.mem_getLast?_eq_getLast member
  exact List.rdropWhile_last_not Text.isSpace text some

theorem trimEnd_prefix (text : List Char) : trimEnd text <+: text :=
  List.rdropWhile_prefix Text.isSpace text

/-- Before white space the text reaches as far as a part that ends with another character. -/
theorem exists_append_of_blank {kept back : List Char} (split : text ++ blank = kept ++ back)
    (spaced : Blank blank) (solid : ∀ last ∈ kept.getLast?, ¬Text.isSpace last) :
    ∃ more, text = kept ++ more ∧ back = more ++ blank := by
  rcases List.append_eq_append_iff.mp split with ⟨more, rfl, rfl⟩ | known
  · cases more using List.reverseRecOn with
    | nil => exact ⟨[], by simp, rfl⟩
    | append_singleton more last =>
      exact absurd (spaced last (by simp)) (solid last (by simp))
  · exact known

/-- An array or an object ends with its bracket. -/
theorem ValueText.ends_solid (known : ValueText convert StringText value text)
    (structured : IsStructured value) :
    ∃ inner last, text = inner ++ [last] ∧ ¬Text.isSpace last := by
  cases known with
  | array items =>
    obtain ⟨_, _⟩ := items
    exact ⟨_, ']', rfl, by decide⟩
  | object items _ =>
    obtain ⟨_, _⟩ := items
    exact ⟨_, '\x7d', rfl, by decide⟩
  | null | falsehood | truth | number | string => exact structured.elim

/-- White space at the end of a document may be left out. -/
theorem SpacedText.shorten (known : SpacedText convert StringText value (text ++ blank))
    (structured : IsStructured value) (spaced : Blank blank) :
    SpacedText convert StringText value text := by
  generalize whole : text ++ blank = full at known
  obtain ⟨before, read, after⟩ := known
  rename_i front inner back
  obtain ⟨_, last, bracket, solid⟩ := read.ends_solid structured
  rw [← List.append_assoc] at whole
  obtain ⟨more, rfl, rfl⟩ := exists_append_of_blank whole spaced (by simpa [bracket] using solid)
  rw [List.append_assoc]
  exact .mk before (.mk read fun char member => after char (List.mem_append_left blank member))

theorem SpacedText.document (known : SpacedText convert StringText value text)
    (structured : IsStructured value) : DocumentText text :=
  ⟨convert, value, structured, known⟩

/-- What stands behind a document in a longer one is white space. -/
theorem blank_of_longer (complete : DocumentText text) (longer : DocumentText (text ++ rest)) :
    Blank rest := by
  obtain ⟨blank, left, rfl, spaced, solid⟩ := exists_solid rest
  rw [← List.append_assoc] at longer
  obtain rfl := eq_nil_of_solid (complete.append spaced) solid longer
  rwa [List.append_nil]

/-- Of the texts that begin a document those are documents which lack nothing but white space at
the end, and they denote the same value. -/
theorem parse?_prefix_iff {short : String} {other : Json}
    (accepted : parse? convert source = some (.ok value))
    (split : source.toList = short.toList ++ rest) :
    parse? convert short = some (.ok other) ↔ other = value ∧ Blank rest := by
  obtain ⟨structured, known⟩ := parse?_eq_ok_iff.mp accepted
  rw [split] at known
  constructor
  · intro accepted'
    obtain ⟨structured', known'⟩ := parse?_eq_ok_iff.mp accepted'
    have spaced := blank_of_longer (known'.document structured') (known.document structured)
    exact ⟨spacedText_unique (known.shorten structured spaced) known', spaced⟩
  · rintro ⟨rfl, spaced⟩
    exact parse?_eq_ok_iff.mpr ⟨structured, known.shorten structured spaced⟩

/-- A document that is cut short is rejected, wherever the cut falls. -/
theorem truncated_rejected (accepted : parse? convert source = some (.ok value)) :
    (∀ cut : String, cut.toList <+: trimEnd source.toList → cut.toList ≠ trimEnd source.toList →
      ∃ failure, parse? convert cut = some (.error failure)) ∧
    ∀ short : String, short.toList <+: source.toList → ∀ other,
      parse? convert short = some (.ok other) ↔
        other = value ∧ ∃ blank, Blank blank ∧ source.toList = short.toList ++ blank := by
  constructor
  · rintro cut ⟨missing, trimmed⟩ proper
    obtain ⟨spaces, split⟩ := trimEnd_prefix source.toList
    obtain ⟨failure | other, ended⟩ := parse?_isSome convert cut
    · exact ⟨failure, ended⟩
    · rw [← trimmed, List.append_assoc] at split
      obtain ⟨_, spaced⟩ := (parse?_prefix_iff accepted split.symm).mp ended
      have whole : cut.toList ++ (missing ++ spaces) = trimEnd source.toList ++ spaces := by
        rw [← trimmed, List.append_assoc]
      obtain ⟨more, kept, _⟩ := exists_append_of_blank whole spaced fun _ => trimEnd_solid
      have reaches : trimEnd source.toList <+: cut.toList := ⟨more, kept.symm⟩
      exact absurd (List.IsPrefix.eq_of_length_le ⟨missing, trimmed⟩ reaches.length_le) proper
  · rintro short ⟨rest, split⟩ other
    rw [parse?_prefix_iff accepted split.symm]
    refine and_congr_right fun _ => ⟨fun spaced => ⟨rest, spaced, split.symm⟩, ?_⟩
    rintro ⟨blank, spaced, split'⟩
    rwa [List.append_cancel_left (split.trans split')]

/-- The cut falls inside a string, just behind a bracket that closes nothing. -/
theorem cut_string_rejected :
    parse? Number.ofText? "[\"]\", 1]\n" =
        some (.ok (.array [.string "]", .number (.integer 1)])) ∧
      "[\"]".toList <+: trimEnd "[\"]\", 1]\n".toList ∧
      ∃ failure, parse? Number.ofText? "[\"]" = some (.error failure) := by
  have accepted : parse? Number.ofText? "[\"]\", 1]\n" =
      some (.ok (.array [.string "]", .number (.integer 1)])) := by rfl
  have initial : "[\"]".toList <+: trimEnd "[\"]\", 1]\n".toList := by decide
  exact ⟨accepted, initial, (truncated_rejected accepted).1 "[\"]" initial (by decide)⟩

end CommittedChoice.Json
