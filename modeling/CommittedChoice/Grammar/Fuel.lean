import CommittedChoice.Grammar.Run
import CommittedChoice.Parser.Extension

/-! More fuel never changes a run that has ended, so that a grammar replies at most once from each
state. -/
namespace CommittedChoice

variable {ι : Type} {τ : ι → Type} {α : Type} {rules : Rules τ} {g : Grammar τ α}

theorem Grammar.parser_extends {call call' : (name : ι) → Parser (τ name)} {limit limit' : Nat}
    (calls : ∀ name, (call' name).Extends (call name)) (more : limit ≤ limit')
    (g : Grammar τ α) : (g.parser call' limit').Extends (g.parser call limit) := by
  induction g with
  | pure | fail | readChar | consumeOne | satisfy | literal => exact .refl _
  | map f _ ih => exact ih.map f
  | bind _ _ ih next => exact ih.bind next
  | seqRight _ _ first second => exact first.seqRight second
  | seqLeft _ _ first second => exact first.seqLeft second
  | seqPair _ _ first second => exact first.seqPair second
  | between _ _ _ opening closing ih => exact opening.between closing ih
  | recognize _ ih => exact ih.recognize
  | orElse _ _ first second => exact first.orElse second
  | choice _ each => exact .choice each
  | attempt _ ih => exact ih.attempt
  | lookAhead _ ih => exact ih.lookAhead
  | notFollowedBy _ ih => exact ih.notFollowedBy
  | label text _ ih => exact ih.label text
  | option default _ ih => exact ih.option default
  | optional _ ih => exact ih.optional
  | many _ ih => exact ih.many more
  | many1 _ ih => exact ih.many1 more
  | manyTill _ _ ih terminator => exact ih.manyTill terminator more
  | count times _ ih => exact ih.count times
  | sepBy _ _ item separator => exact item.sepBy separator more
  | sepBy1 _ _ item separator => exact item.sepBy1 separator more
  | endBy _ _ item separator => exact (item.seqLeft separator).many more
  | endBy1 _ _ item separator => exact (item.seqLeft separator).many1 more
  | sepEndBy _ _ item separator => exact item.sepEndBy separator more
  | sepEndBy1 _ _ item separator => exact item.sepEndBy1 separator more
  | later _ ih => exact ih ()
  | rule name => exact calls name

theorem Rules.parser_extends {limit limit' depth depth' : Nat} (more : limit ≤ limit')
    (deeper : depth ≤ depth') (name : ι) :
    (rules.parser limit' depth' name).Extends (rules.parser limit depth name) := by
  induction depth generalizing depth' name with
  | zero => intro _ _ ended; cases ended
  | succ depth ih =>
    obtain ⟨depth', rfl⟩ : ∃ k, depth' = k + 1 := ⟨depth' - 1, by omega⟩
    exact (rules name).parser_extends (ih (by omega)) more

theorem Grammar.run_extends {fuel fuel' : Nat} (more : fuel ≤ fuel') (g : Grammar τ α) :
    (g.run rules fuel').Extends (g.run rules fuel) :=
  g.parser_extends (Rules.parser_extends more more) more

namespace Grammar.Replies

theorem unique {state : State} {reply reply' : Reply α} (first : g.Replies rules state reply)
    (second : g.Replies rules state reply') : reply = reply' := by
  obtain ⟨fuel, ended⟩ := first
  obtain ⟨fuel', ended'⟩ := second
  have left := g.run_extends (Nat.le_max_left fuel fuel') state reply ended
  have right := g.run_extends (Nat.le_max_right fuel fuel') state reply' ended'
  exact Option.some.inj (left.symm.trans right)

end Grammar.Replies

end CommittedChoice
