import CommittedChoice.Grammar.Run
import CommittedChoice.Parser.Rounds

/-! Parsers whose failures leave the cursor where it was. Attempts and predicates make them out of
any others; repetition attempts its rounds by itself and fails in its first one only. -/
namespace CommittedChoice

variable {α β : Type}

namespace Parser

/-- A failed run leaves the cursor where it started. -/
def GivesBack (p : Parser α) : Prop :=
  ∀ state expected after, p state = some (.failure expected, after) →
    after.cursor = state.cursor

namespace GivesBack

variable {p : Parser α} {q : Parser β}

theorem readChar : readChar.GivesBack := by
  intro state expected after run
  unfold Parser.readChar at run
  split at run <;> cases run
  rfl

theorem satisfy (accepts : Char → Bool) : (satisfy accepts).GivesBack := by
  intro state expected after run
  unfold Parser.satisfy at run
  split at run
  · split at run <;> cases run
    rfl
  · cases run
    rfl

theorem map (f : α → β) (gives : p.GivesBack) : (p.map f).GivesBack := by
  intro state expected after run
  rcases map_eq_some.mp run with ⟨_, _, _, ⟨⟩⟩ | ⟨expected, after, ran, ⟨⟩⟩
  exact gives state expected after ran

theorem recognize (gives : p.GivesBack) : p.recognize.GivesBack := by
  intro state expected after run
  rcases recognize_eq_some.mp run with ⟨_, _, _, ⟨⟩⟩ | ⟨expected, after, ran, ⟨⟩⟩
  exact gives state expected after ran

theorem orElse {q : Parser α} (first : p.GivesBack) (second : q.GivesBack) :
    (p.orElse q).GivesBack := by
  intro state expected after run
  rcases orElse_eq_some.mp run with ⟨_, _, _, ⟨⟩⟩ | ⟨expected, middle, ran, rest⟩
  have clean : middle.cursor = state.cursor := first state expected middle ran
  rw [if_pos clean] at rest
  rcases rest with ⟨_, _, _, ⟨⟩⟩ | ⟨expected', after, ran', ⟨⟩⟩
  exact (second middle expected' after ran').trans clean

theorem choice {parsers : List (Parser α)} (each : ∀ p ∈ parsers, p.GivesBack) :
    (choice parsers).GivesBack := by
  suffices tried : ∀ start expected state expected' after, state.cursor = start →
      choiceFrom start parsers expected state = some (.failure expected', after) →
      after.cursor = start from
    fun state expected after => tried state.cursor .nothing state expected after rfl
  induction parsers with
  | nil =>
    rintro start expected state _ _ here ⟨⟩
    exact here
  | cons p parsers ih =>
    intro start expected state expected' after here run
    obtain ⟨first, others⟩ := List.forall_mem_cons.mp each
    rcases choiceFrom_cons_eq_some.mp run with ⟨_, _, _, ⟨⟩⟩ | ⟨failed, middle, ran, rest⟩
    have clean : middle.cursor = start := (first state failed middle ran).trans here
    rw [if_pos clean] at rest
    exact ih others start _ middle expected' after clean rest

theorem attempt (p : Parser α) : p.attempt.GivesBack := by
  intro state expected after run
  rcases attempt_eq_some.mp run with ⟨_, _, _, ⟨⟩⟩ | ⟨_, _, _, ⟨⟩⟩
  rfl

theorem lookAhead (gives : p.GivesBack) : p.lookAhead.GivesBack := by
  intro state expected after run
  rcases lookAhead_eq_some.mp run with ⟨_, _, _, ⟨⟩⟩ | ⟨expected, after, ran, ⟨⟩⟩
  exact gives state expected after ran

theorem notFollowedBy (p : Parser α) : p.notFollowedBy.GivesBack := by
  intro state expected after run
  rcases notFollowedBy_eq_some.mp run with ⟨_, _, _, ⟨⟩⟩ | ⟨_, _, _, ⟨⟩⟩
  rfl

theorem label (name : String) (gives : p.GivesBack) : (p.label name).GivesBack := by
  intro state expected after run
  rcases label_eq_some.mp run with ⟨_, _, _, ⟨⟩⟩ | ⟨expected, after, ran, ⟨⟩⟩
  exact gives state expected after ran

/-- An option whose failures are all clean does not fail. -/
theorem option (default : α) (gives : p.GivesBack) : (p.option default).GivesBack := by
  intro state expected after run
  rcases option_eq_some.mp run with ⟨_, _, _, ⟨⟩⟩ | ⟨expected, after, ran, same⟩
  rw [if_pos (gives state expected after ran)] at same
  cases same

theorem optional (gives : p.GivesBack) : p.optional.GivesBack := by
  intro state expected after run
  rcases optional_eq_some.mp run with ⟨_, _, _, ⟨⟩⟩ | ⟨expected, after, ran, same⟩
  rw [if_pos (gives state expected after ran)] at same
  cases same

theorem many1 (limit : Nat) (p : Parser α) : (many1 limit p).GivesBack := by
  intro state expected after run
  rcases many1_eq_some.mp run with ⟨_, _, _, _, _, _, _, _, _, _, ⟨⟩⟩ | ⟨_, _, _, ⟨⟩⟩
  rfl

theorem sepBy1 (limit : Nat) (item : Parser α) (separator : Parser β) :
    (sepBy1 limit item separator).GivesBack := by
  intro state expected after run
  rcases sepBy1_eq_some.mp run with ⟨_, _, _, _, _, _, _, _, _, _, ⟨⟩⟩ | ⟨_, _, _, ⟨⟩⟩
  rfl

theorem sepEndBy1 (limit : Nat) (item : Parser α) (separator : Parser β) :
    (sepEndBy1 limit item separator).GivesBack := by
  intro state expected after run
  rcases sepEndBy1_eq_some.mp run with
    ⟨_, _, _, _, _, _, _, ⟨_, _, _, ⟨⟩⟩ | ⟨_, _, _, _, _, _, ⟨⟩⟩⟩ | ⟨_, _, _, ⟨⟩⟩
  rfl

end GivesBack

end Parser

variable {ι : Type} {τ : ι → Type}

namespace Grammar

/-- A failure of the tree leaves the cursor where it was: the tree is an attempt or a predicate, it
takes one character at most, or its parts that may fail are of this kind. -/
def GivesBack : {α : Type} → Grammar τ α → Prop
  | _, .attempt _ | _, .notFollowedBy _ | _, .readChar | _, .satisfy _ | _, .many1 _
  | _, .sepBy1 _ _ | _, .endBy1 _ _ | _, .sepEndBy1 _ _ => True
  | _, .map _ g => g.GivesBack
  | _, .recognize g => g.GivesBack
  | _, .orElse first second => first.GivesBack ∧ second.GivesBack
  | _, .choice alternatives => ∀ i, (alternatives i).GivesBack
  | _, .lookAhead g => g.GivesBack
  | _, .label _ g => g.GivesBack
  | _, .option _ g => g.GivesBack
  | _, .optional g => g.GivesBack
  | _, _ => False

theorem parser_givesBack (call : (name : ι) → Parser (τ name)) (limit : Nat) {g : Grammar τ α}
    (gives : g.GivesBack) : (g.parser call limit).GivesBack := by
  induction g with
  | readChar => exact .readChar
  | satisfy accepts => exact .satisfy accepts
  | map f _ ih => exact (ih gives).map f
  | recognize _ ih => exact (ih gives).recognize
  | orElse _ _ first second => exact (first gives.1).orElse (second gives.2)
  | choice _ each =>
    refine .choice fun parser member => ?_
    obtain ⟨i, rfl⟩ := List.mem_ofFn.mp member
    exact each i (gives i)
  | attempt g => exact .attempt _
  | lookAhead _ ih => exact (ih gives).lookAhead
  | notFollowedBy g => exact .notFollowedBy _
  | label text _ ih => exact (ih gives).label text
  | option default _ ih => exact (ih gives).option default
  | optional _ ih => exact (ih gives).optional
  | many1 g => exact .many1 limit _
  | sepBy1 item separator => exact .sepBy1 limit _ _
  | endBy1 item separator => exact .many1 limit _
  | sepEndBy1 item separator => exact .sepEndBy1 limit _ _
  | _ => exact gives.elim

end Grammar

end CommittedChoice
