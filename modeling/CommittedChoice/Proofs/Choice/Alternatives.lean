import CommittedChoice.Grammar.Limit
import CommittedChoice.Proofs.Choice.Flat

/-! A tree of ordered choices replies as the list of its leaves, and that list is decided by the
first leaf that does not fail cleanly. -/
namespace CommittedChoice

variable {ι : Type} {τ : ι → Type} {α : Type}

section Trials

variable {γ : Type 1} (run : γ → State → Reply α → Prop) (start : Nat)

/-- Alternatives that have all failed without moving the cursor, each from the state that the one
before it left, and what they expected. -/
inductive Tried : State → List γ → List Expected → State → Prop where
  | nil {state : State} : Tried state [] [] state
  | cons {state middle after : State} {g : γ} {alternatives : List γ} {expected : Expected}
      {gathered : List Expected} (failed : run g state (.failure expected, middle))
      (clean : middle.cursor = start) (others : Tried middle alternatives gathered after) :
      Tried state (g :: alternatives) (expected :: gathered) after

/-- A success, or a failure that has moved the cursor. -/
def Decisive (reply : Reply α) : Prop := reply.1.isSuccess ∨ reply.2.cursor ≠ start

variable {run start} {state : State} {reply : Reply α}

/-- Either an alternative decides, and those after it are not asked, or all have been tried. -/
theorem Parser.chooses_iff {alternatives : List γ} {expected : Expected} :
    Chooses run start alternatives expected state reply ↔
      (∃ before g others gathered middle, alternatives = before ++ g :: others ∧
        Tried run start state before gathered middle ∧ run g middle reply ∧
        Decisive start reply) ∨
      ∃ gathered after, Tried run start state alternatives gathered after ∧
        (.failure (gathered.foldl Expected.merge expected), after) = reply := by
  induction alternatives generalizing state expected with
  | nil =>
    constructor
    · exact fun known => .inr ⟨[], state, .nil, known⟩
    · rintro (⟨_ | _, _, _, _, _, ⟨⟩, _⟩ | ⟨_, _, ⟨⟩, known⟩)
      exact known
  | cons g alternatives ih =>
    constructor
    · rintro (⟨value, after, succeeded, rfl⟩ | ⟨expected', middle, failed, rest⟩)
      · exact .inl ⟨[], g, alternatives, [], state, rfl, .nil, succeeded, .inl rfl⟩
      · split at rest
        next clean =>
          rcases ih.mp rest with ⟨before, h, others, gathered, last, rfl, tried, decides⟩ |
            ⟨gathered, after, tried, same⟩
          · exact .inl ⟨g :: before, h, others, expected' :: gathered, last, rfl,
              .cons failed clean tried, decides⟩
          · exact .inr ⟨expected' :: gathered, after, .cons failed clean tried, same⟩
        next moved =>
          subst rest
          exact .inl ⟨[], g, alternatives, [], state, rfl, .nil, failed, .inr moved⟩
    · rintro (⟨before, h, others, gathered, middle, split, tried, decides⟩ |
        ⟨gathered, after, tried, same⟩)
      · cases tried with
        | nil =>
          obtain ⟨rfl, rfl⟩ := List.cons.inj split
          obtain ⟨run, decisive⟩ := decides
          obtain ⟨expected' | value, after⟩ := reply
          · have moved : ¬after.cursor = start := decisive.resolve_left Bool.false_ne_true
            exact .inr ⟨expected', after, run, by rw [if_neg moved]⟩
          · exact .inl ⟨value, after, run, rfl⟩
        | @cons _ after _ _ before expected' gathered failed clean tried =>
          obtain ⟨rfl, rfl⟩ := List.cons.inj split
          refine .inr ⟨expected', after, failed, ?_⟩
          rw [if_pos clean]
          exact ih.mpr (.inl ⟨before, h, others, gathered, middle, rfl, tried, decides⟩)
      · cases tried with
        | @cons _ middle _ _ _ expected' gathered failed clean tried =>
          refine .inr ⟨expected', middle, failed, ?_⟩
          rw [if_pos clean]
          exact ih.mpr (.inr ⟨gathered, after, tried, same⟩)

end Trials

/-- A tree of both choice combinators over grammars. -/
inductive Alternatives {ι : Type} (τ : ι → Type) (α : Type) : Type 1 where
  | leaf (g : Grammar τ α)
  | orElse (first second : Alternatives τ α)
  | choice {n : Nat} (alternatives : Fin n → Alternatives τ α)

namespace Alternatives

def grammar : Alternatives τ α → Grammar τ α
  | leaf g => g
  | orElse first second => .orElse first.grammar second.grammar
  | choice alternatives => .choice fun i => (alternatives i).grammar

/-- The leaves from left to right. -/
def leaves : Alternatives τ α → List (Grammar τ α)
  | leaf g => [g]
  | orElse first second => first.leaves ++ second.leaves
  | choice alternatives => (List.ofFn fun i => (alternatives i).leaves).flatten

variable {rules : Rules τ} {t : Alternatives τ α}

theorem same_leaves (call : (name : ι) → Parser (τ name)) (limit : Nat) (t : Alternatives τ α) :
    Parser.SameChoice [t.grammar.parser call limit]
      (t.leaves.map fun g => g.parser call limit) := by
  induction t with
  | leaf g => exact .refl _
  | orElse first second ih ih' =>
    rw [leaves, List.map_append]
    exact (Parser.SameChoice.orElse _ _).trans (ih.append ih')
  | choice alternatives each =>
    rw [leaves, List.map_flatten, List.map_ofFn]
    exact (Parser.SameChoice.choice _).trans (.flatten each)

theorem wellLabelled_grammar (labelled : ∀ g ∈ t.leaves, g.WellLabelled) :
    t.grammar.WellLabelled := by
  induction t with
  | leaf g => exact labelled g (List.mem_singleton.mpr rfl)
  | orElse first second ih ih' =>
    exact ⟨ih fun g member => labelled g (List.mem_append_left _ member),
      ih' fun g member => labelled g (List.mem_append_right _ member)⟩
  | choice alternatives each =>
    refine fun i => each i fun g member => labelled g ?_
    exact List.mem_flatten.mpr ⟨_, List.mem_ofFn.mpr ⟨i, rfl⟩, member⟩

theorem run_grammar (labelled : ∀ g ∈ t.leaves, g.WellLabelled)
    (rules_labelled : ∀ name, (rules name).WellLabelled) (fuel : Nat) (state : State) :
    t.grammar.run rules fuel state = (Grammar.choiceOf t.leaves).run rules fuel state := by
  rw [Grammar.run, Grammar.run, Grammar.parser_choiceOf]
  exact (same_leaves _ fuel t).eq_choice
    (Grammar.run_makes rules_labelled (wellLabelled_grammar labelled) fuel) state

/-- Ordered choice is associative and flat. A tree of choices replies as the choice of its leaves:
the first leaf that succeeds or has moved the cursor decides, whatever stands after it, and when
all leaves have failed cleanly their labels are listed once, in order of first appearance. -/
theorem replies_grammar (labelled : ∀ g ∈ t.leaves, g.WellLabelled)
    (rules_labelled : ∀ name, (rules name).WellLabelled) (state : State) (reply : Reply α) :
    (t.grammar.Replies rules state reply ↔
      (Grammar.choiceOf t.leaves).Replies rules state reply) ∧
    (t.grammar.Replies rules state reply ↔
      (∃ before g others gathered middle, t.leaves = before ++ g :: others ∧
        Tried (Grammar.Replies rules) state.cursor state before gathered middle ∧
        g.Replies rules middle reply ∧ Decisive state.cursor reply) ∨
      ∃ gathered after,
        Tried (Grammar.Replies rules) state.cursor state t.leaves gathered after ∧
        (.failure ⟨(gathered.flatMap Expected.alternatives).eraseDups⟩, after) = reply) := by
  have flat : t.grammar.Replies rules state reply ↔
      (Grammar.choiceOf t.leaves).Replies rules state reply :=
    exists_congr fun fuel => by rw [run_grammar labelled rules_labelled]
  refine ⟨flat, flat.trans (Grammar.replies_choiceOf.trans ?_)⟩
  simp only [Parser.chooses_iff, Expected.foldl_merge]

/-- An empty choice adds nothing, and a label that is already listed keeps its place. -/
theorem nested_choice_flat :
    let sign : Grammar (fun _ : Empty => Unit) Char := .label "sign" (.satisfy (· = '-'))
    let digit : Grammar (fun _ : Empty => Unit) Char := .label "digit" (.satisfy Char.isDigit)
    let missing : Grammar (fun _ : Empty => Unit) Char := .fail (.ofLabels ["number", "sign"])
    let t : Alternatives (fun _ : Empty => Unit) Char :=
      .orElse (.choice [.leaf sign, .choice [].get].get) (.orElse (.leaf digit) (.leaf missing))
    let reply : Reply Char := (.failure (.ofLabels ["sign", "digit", "number"]), .start "x")
    (∀ g ∈ t.leaves, g.WellLabelled) ∧ t.grammar.Replies .empty (.start "x") reply ∧
      (Grammar.choiceOf t.leaves).Replies .empty (.start "x") reply := by
  intro sign digit missing t reply
  have labelled : ∀ g ∈ t.leaves, g.WellLabelled := by
    show ∀ g ∈ [sign, digit, missing], g.WellLabelled
    simp only [List.forall_mem_cons]
    exact ⟨trivial, trivial, Expected.made_ofLabels _, nofun⟩
  have replies : t.grammar.Replies .empty (.start "x") reply := ⟨1, by decide⟩
  exact ⟨labelled, replies, (replies_grammar labelled nofun _ _).1.mp replies⟩

end Alternatives

end CommittedChoice
