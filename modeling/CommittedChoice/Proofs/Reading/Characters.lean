import CommittedChoice.Grammar.Characters
import CommittedChoice.Proofs.Locality.Grammar
import CommittedChoice.Proofs.Reading.Takes
import CommittedChoice.Proofs.Reading.Yields

/-! What the grammars for characters, runs of characters and the end of the source take, refuse
and have read. -/
namespace CommittedChoice

/-- A property of the first characters is shown by a table over their codes. -/
theorem Text.forall_below {bound : Nat} {P : Char → Prop}
    (table : ∀ code < bound, P (Char.ofNat code)) {char : Char} (small : char.toNat < bound) :
    P char := by
  have known := table char.toNat small
  rwa [Char.ofNat_toNat] at known

/-- The one character that stands at the head of a text. -/
theorem Text.forall_head {P : Char → Prop} {char : Char} (known : P char) (text : List Char) :
    ∀ first ∈ (char :: text).head?, P first := by
  intro first same
  obtain rfl := Option.some.inj same
  exact known

namespace Parser

variable {accepts : Char → Bool} {text left : List Char} {limit : Nat}

/-- A loop over one class takes characters of the class and stops at the first other one. -/
theorem takes_run (name : String) (accepted : ∀ char ∈ text, accepts char)
    (stops : ∀ char ∈ left.head?, ¬accepts char) (rounds : text.length < limit) :
    (many limit ((satisfy accepts).label name)).Takes text left (.success text) := by
  refine .many (.ofChars accepted) ?_ ((refuses_satisfy stops).label name) rounds
  rintro char _ rest ⟨accepted, rfl⟩
  exact (takes_satisfy accepted).label name

theorem takes_run1 (name : String) {char : Char} (first : accepts char)
    (accepted : ∀ char ∈ text, accepts char) (stops : ∀ char ∈ left.head?, ¬accepts char)
    (rounds : text.length < limit) :
    (many1 limit ((satisfy accepts).label name)).Takes (char :: text) left
      (.success (char :: text)) := by
  show (many1 limit _).Takes ([char] ++ text) left _
  refine .many1 ⟨first, rfl⟩ (.ofChars accepted) ?_
    ((refuses_satisfy stops).label name) rounds
  rintro char _ rest ⟨accepted, rfl⟩
  exact (takes_satisfy accepted).label name

theorem yields_class (name : String) :
    ((satisfy accepts).label name).Yields fun char piece => accepts char ∧ piece = [char] :=
  (yields_satisfy fun _ accepted => ⟨accepted, rfl⟩).label

theorem yields_run (name : String) (limit : Nat) :
    (many limit ((satisfy accepts).label name)).Yields fun chars text =>
      chars = text ∧ ∀ char ∈ text, accepts char :=
  ((yields_class name).many (.label name (.satisfy accepts)) limit).mono
    fun _ _ pieces => pieces.toChars

theorem yields_run1 (name : String) (limit : Nat) :
    (many1 limit ((satisfy accepts).label name)).Yields fun chars text =>
      chars = text ∧ text ≠ [] ∧ ∀ char ∈ text, accepts char := by
  apply ((yields_class name).many1 (.label name (.satisfy accepts)) limit).mono
  rintro chars text ⟨some, pieces⟩
  obtain ⟨rfl, accepted⟩ := pieces.toChars
  exact ⟨rfl, some, accepted⟩

end Parser

namespace Grammar

variable {ι : Type} {τ : ι → Type} {α : Type} {call : (name : ι) → Parser (τ name)} {limit : Nat}
  {text left : List Char} {c : Char} {set : String}

theorem yields_choiceOf (calls : ∀ name, (call name).Local) {alternatives : List (Grammar τ α)}
    {R : α → List Char → Prop} (each : ∀ g ∈ alternatives, (g.parser call limit).Yields R) :
    ((choiceOf alternatives).parser call limit).Yields R := by
  rw [parser_choiceOf]
  apply Parser.Yields.choice
  · intro p member
    obtain ⟨g, listed, rfl⟩ := List.mem_map.mp member
    exact each g listed
  · intro p member
    obtain ⟨g, _, rfl⟩ := List.mem_map.mp member
    exact g.parser_local calls limit

theorem takes_char : ((char c : Grammar τ Char).parser call limit).Takes [c] left (.success c) :=
  (Parser.takes_satisfy (by simp)).label _

theorem refuses_char (differs : text.head? ≠ some c) :
    ((char c : Grammar τ Char).parser call limit).Refuses text := by
  refine (Parser.refuses_satisfy fun char head => ?_).label _
  rintro same
  exact differs (by simpa using of_decide_eq_true same ▸ head)

theorem yields_char : ((char c : Grammar τ Char).parser call limit).Yields
    fun value piece => value = c ∧ piece = [c] :=
  (Parser.yields_satisfy fun _ accepted => by simpa using accepted).label

theorem takes_oneOf (member : c ∈ set.toList) :
    ((oneOf set : Grammar τ Char).parser call limit).Takes [c] left (.success c) :=
  Parser.takes_satisfy (by simpa using member)

theorem refuses_oneOf (outside : ∀ char ∈ text.head?, char ∉ set.toList) :
    ((oneOf set : Grammar τ Char).parser call limit).Refuses text :=
  Parser.refuses_satisfy fun char head => by simpa using outside char head

theorem yields_oneOf : ((oneOf set : Grammar τ Char).parser call limit).Yields
    fun value piece => value ∈ set.toList ∧ piece = [value] :=
  Parser.yields_satisfy fun _ accepted => ⟨by simpa using accepted, rfl⟩

/-- White space is taken as far as it goes. -/
theorem takes_spaces (blank : ∀ char ∈ text, Text.isSpace char)
    (solid : ∀ char ∈ left.head?, ¬Text.isSpace char) (rounds : text.length < limit) :
    ((spaces : Grammar τ Unit).parser call limit).Takes text left (.success ()) :=
  ((Parser.takes_run "space" blank solid rounds).map _).label _

theorem yields_spaces : ((spaces : Grammar τ Unit).parser call limit).Yields
    fun _ piece => ∀ char ∈ piece, Text.isSpace char :=
  (((Parser.yields_run "space" limit).mono fun _ _ known => known.2).map (f := fun _ => ())).label

/-- The end is where no character can be read. -/
theorem takes_eof : ((eof : Grammar τ Unit).parser call limit).Takes [] [] (.success ()) := by
  intro state front splits
  refine ⟨state.rewind state.cursor, ?_, rfl, by simpa using splits.rewind rfl⟩
  have peek : state.peek = none := splits.peek
  simp [eof, parser, Parser.label, Parser.notFollowedBy, Parser.attempt, Parser.seqRight,
    Parser.readChar, peek, State.rewind]

theorem eof_success {state after : State} {front : List Char} (splits : state.Splits front text)
    (run : (eof : Grammar τ Unit).parser call limit state = some (.success (), after)) :
    text = [] := by
  cases text with
  | nil => rfl
  | cons char rest =>
    have peek : state.peek = some char := splits.peek
    simp [eof, parser, Parser.label, Parser.notFollowedBy, Parser.attempt, Parser.seqRight,
      Parser.readChar, Parser.consumeOne, peek, State.rewind] at run

/-- What fails at the end has read a character there, and it gives that back. -/
theorem eof_failure {state after : State} {expected : Expected}
    (run : (eof : Grammar τ Unit).parser call limit state = some (.failure expected, after)) :
    after.furthest = some (State.deepest state.furthest state.cursor) := by
  cases peek : state.peek with
  | none =>
    simp [eof, parser, Parser.label, Parser.notFollowedBy, Parser.attempt, Parser.seqRight,
      Parser.readChar, peek, State.rewind] at run
  | some char =>
    simp [eof, parser, Parser.label, Parser.notFollowedBy, Parser.attempt, Parser.seqRight,
      Parser.readChar, Parser.consumeOne, peek, State.rewind] at run
    rw [← run.2]
    rfl

end Grammar

end CommittedChoice
