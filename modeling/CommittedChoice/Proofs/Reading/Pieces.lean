import CommittedChoice.Outcome

/-! Texts that are written piece by piece. A relation tells which texts stand for a value; from it
come the texts of lists of values, one after the other or with a separator between them. -/
namespace CommittedChoice

variable {α β : Type} {R R' : α → List Char → Prop} {S S' : List Char → Prop}

inductive Pieces (R : α → List Char → Prop) : List α → List Char → Prop where
  | nil : Pieces R [] []
  | cons {value : α} {values : List α} {piece text : List Char} (first : R value piece)
      (others : Pieces R values text) : Pieces R (value :: values) (piece ++ text)

/-- The text of a value with a separator before it. -/
inductive After (S : List Char → Prop) (R : α → List Char → Prop) : α → List Char → Prop where
  | mk {separator piece : List Char} {value : α} (between : S separator) (next : R value piece) :
      After S R value (separator ++ piece)

/-- Values with separators between them; there may be none. -/
inductive Listed (R : α → List Char → Prop) (S : List Char → Prop) :
    List α → List Char → Prop where
  | nil : Listed R S [] []
  | cons {value : α} {values : List α} {piece text : List Char} (first : R value piece)
      (others : Pieces (After S R) values text) : Listed R S (value :: values) (piece ++ text)

namespace Pieces

variable {values more : List α} {text rest : List Char}

/-- Only pieces of the text have to be told apart. -/
theorem mono (pieces : Pieces R values text)
    (each : ∀ value piece, R value piece → piece.length ≤ text.length → R' value piece) :
    Pieces R' values text := by
  induction pieces with
  | nil => exact .nil
  | cons first others ih =>
    refine .cons (each _ _ first (by simp)) (ih fun value piece known short => ?_)
    apply each value piece known
    rw [List.length_append]
    omega

/-- The same pieces may be told as other values. -/
theorem exists_values {R' : β → List Char → Prop} (pieces : Pieces R values text)
    (each : ∀ value piece, R value piece → ∃ value', R' value' piece) :
    ∃ values', Pieces R' values' text := by
  induction pieces with
  | nil => exact ⟨[], .nil⟩
  | cons first _ ih =>
    obtain ⟨value', known⟩ := each _ _ first
    obtain ⟨values', known'⟩ := ih
    exact ⟨value' :: values', .cons known known'⟩

theorem single {value : α} {piece : List Char} (only : R value piece) :
    Pieces R [value] piece := by
  simpa using Pieces.cons only .nil

theorem append (first : Pieces R values text) (second : Pieces R more rest) :
    Pieces R (values ++ more) (text ++ rest) := by
  induction first with
  | nil => exact second
  | cons head _ ih =>
    rw [List.append_assoc]
    exact .cons head ih

theorem flatMap {write : α → List Char} (each : ∀ value ∈ values, R value (write value)) :
    Pieces R values (values.flatMap write) := by
  induction values with
  | nil => exact .nil
  | cons value values ih =>
    rw [List.flatMap_cons]
    exact .cons (each value (by simp)) (ih fun other member => each other (by simp [member]))

/-- Pieces that are told by their values make up the text. -/
theorem flatMap_eq {content : α → List Char}
    (pieces : Pieces (fun value piece => content value = piece) values text) :
    values.flatMap content = text := by
  induction pieces with
  | nil => rfl
  | cons first _ ih => rw [List.flatMap_cons, first, ih]

theorem length_le (pieces : Pieces R values text)
    (each : ∀ value piece, R value piece → piece ≠ []) : values.length ≤ text.length := by
  induction pieces with
  | nil => exact Nat.le_refl _
  | cons first _ ih =>
    have := List.length_pos_iff.mpr (each _ _ first)
    rw [List.length_cons, List.length_append]
    omega

/-- A text is cut into its characters. -/
theorem ofChars {accepts : Char → Prop} (each : ∀ char ∈ text, accepts char) :
    Pieces (fun char piece => accepts char ∧ piece = [char]) text text := by
  induction text with
  | nil => exact .nil
  | cons char text ih =>
    exact .cons ⟨each char (by simp), rfl⟩ (ih fun other member => each other (by simp [member]))

theorem toChars {accepts : Char → Prop} {chars : List Char}
    (pieces : Pieces (fun char piece => accepts char ∧ piece = [char]) chars text) :
    chars = text ∧ ∀ char ∈ text, accepts char := by
  induction pieces with
  | nil => exact ⟨rfl, by simp⟩
  | cons first _ ih =>
    obtain ⟨accepted, rfl⟩ := first
    obtain ⟨rfl, each⟩ := ih
    exact ⟨rfl, by simpa using ⟨accepted, each⟩⟩

end Pieces

namespace Listed

variable {values : List α} {text : List Char}

theorem mono (listed : Listed R S values text)
    (each : ∀ value piece, R value piece → piece.length ≤ text.length → R' value piece)
    (apart : ∀ separator, S separator → separator.length ≤ text.length → S' separator) :
    Listed R' S' values text := by
  cases listed with
  | nil => exact .nil
  | cons first others =>
    refine .cons (each _ _ first (by simp)) (others.mono ?_)
    rintro value _ ⟨between, next⟩ short
    simp only [List.length_append] at short each apart
    exact .mk (apart _ between (by omega)) (each _ _ next (by omega))

theorem exists_values {R' : β → List Char → Prop} (listed : Listed R S values text)
    (each : ∀ value piece, R value piece → ∃ value', R' value' piece) :
    ∃ values', Listed R' S values' text := by
  cases listed with
  | nil => exact ⟨[], .nil⟩
  | cons first others =>
    obtain ⟨value', known⟩ := each _ _ first
    obtain ⟨values', known'⟩ : ∃ values', Pieces (After S R') values' _ := by
      refine others.exists_values ?_
      rintro value _ ⟨between, next⟩
      obtain ⟨value', next'⟩ := each _ _ next
      exact ⟨value', .mk between next'⟩
    exact ⟨value' :: values', .cons known known'⟩

theorem cons_cons {value next : α} {piece separator : List Char} (first : R value piece)
    (between : S separator) (listed : Listed R S (next :: values) text) :
    Listed R S (value :: next :: values) (piece ++ (separator ++ text)) := by
  cases listed with
  | cons second others =>
    rw [← List.append_assoc separator]
    exact .cons first (.cons (.mk between second) others)

theorem snoc {next : α} {separator piece : List Char} (listed : Listed R S values text)
    (some : values ≠ []) (between : S separator) (last : R next piece) :
    Listed R S (values ++ [next]) (text ++ (separator ++ piece)) := by
  cases listed with
  | nil => exact absurd rfl some
  | cons first others =>
    rw [List.append_assoc]
    exact .cons first (others.append (.single (.mk between last)))

theorem length_le (listed : Listed R S values text)
    (each : ∀ value piece, R value piece → piece ≠ []) : values.length ≤ text.length := by
  cases listed with
  | nil => exact Nat.le_refl _
  | cons first others =>
    have head := List.length_pos_iff.mpr (each _ _ first)
    have tail : _ ≤ _ := others.length_le <| by
      rintro value _ ⟨_, next⟩
      simp [each _ _ next]
    rw [List.length_cons, List.length_append]
    omega

end Listed

end CommittedChoice
