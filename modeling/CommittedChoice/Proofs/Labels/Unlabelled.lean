import CommittedChoice.Grammar.Fuel
import CommittedChoice.Proofs.Labels.Agreement

/-! Labels describe a parse and do not steer it. Two grammars that are the same once their labels
are taken off, with rules that are, have the same runs up to what the failures expected: each of
them agrees with the grammar without labels. -/
namespace CommittedChoice

variable {ι : Type} {τ : ι → Type} {α : Type}

namespace Grammar

/-- The grammar with every label taken off and every explicit failure unexplained. -/
def unlabelled : {α : Type} → Grammar τ α → Grammar τ α
  | _, .pure value => .pure value
  | _, .fail _ => .fail .nothing
  | _, .readChar => .readChar
  | _, .consumeOne => .consumeOne
  | _, .satisfy accepts => .satisfy accepts
  | _, .literal text => .literal text
  | _, .map f g => .map f g.unlabelled
  | _, .bind g next => .bind g.unlabelled fun value => (next value).unlabelled
  | _, .seqRight first second => .seqRight first.unlabelled second.unlabelled
  | _, .seqLeft first second => .seqLeft first.unlabelled second.unlabelled
  | _, .seqPair first second => .seqPair first.unlabelled second.unlabelled
  | _, .between opening closing g =>
    .between opening.unlabelled closing.unlabelled g.unlabelled
  | _, .recognize g => .recognize g.unlabelled
  | _, .orElse first second => .orElse first.unlabelled second.unlabelled
  | _, .choice alternatives => .choice fun i => (alternatives i).unlabelled
  | _, .attempt g => .attempt g.unlabelled
  | _, .lookAhead g => .lookAhead g.unlabelled
  | _, .notFollowedBy g => .notFollowedBy g.unlabelled
  | _, .label _ g => g.unlabelled
  | _, .option default g => .option default g.unlabelled
  | _, .optional g => .optional g.unlabelled
  | _, .many g => .many g.unlabelled
  | _, .many1 g => .many1 g.unlabelled
  | _, .manyTill g terminator => .manyTill g.unlabelled terminator.unlabelled
  | _, @count _ _ _ _ times g => .count times g.unlabelled
  | _, .sepBy item separator => .sepBy item.unlabelled separator.unlabelled
  | _, .sepBy1 item separator => .sepBy1 item.unlabelled separator.unlabelled
  | _, .endBy item separator => .endBy item.unlabelled separator.unlabelled
  | _, .endBy1 item separator => .endBy1 item.unlabelled separator.unlabelled
  | _, .sepEndBy item separator => .sepEndBy item.unlabelled separator.unlabelled
  | _, .sepEndBy1 item separator => .sepEndBy1 item.unlabelled separator.unlabelled
  | _, .later build => .later fun _ => (build ()).unlabelled
  | _, .rule name => .rule name

theorem agrees_unlabelled {call call' : (name : ι) → Parser (τ name)}
    (calls : ∀ name, (call name).Agrees (call' name)) (limit : Nat) (g : Grammar τ α) :
    (g.parser call limit).Agrees (g.unlabelled.parser call' limit) := by
  induction g with
  | pure | readChar | consumeOne | satisfy | literal => exact .refl _
  | fail expected => exact .fail expected .nothing
  | map f _ ih => exact ih.map f
  | bind _ _ ih next => exact ih.bind next
  | seqRight _ _ first second => exact first.seqRight second
  | seqLeft _ _ first second => exact first.seqLeft second
  | seqPair _ _ first second => exact first.seqPair second
  | between _ _ _ opening closing ih => exact opening.between closing ih
  | recognize _ ih => exact ih.recognize
  | orElse _ _ first second => exact first.orElse second
  | choice _ each => exact .choice each
  | attempt _ ih => exact ih.attempt
  | lookAhead _ ih => exact ih.lookAhead
  | notFollowedBy _ ih => exact ih.notFollowedBy
  | label text _ ih => exact ih.label_left text
  | option default _ ih => exact ih.option default
  | optional _ ih => exact ih.optional
  | many _ ih => exact ih.many limit
  | many1 _ ih => exact ih.many1 limit
  | manyTill _ _ ih terminator => exact ih.manyTill terminator limit
  | count times _ ih => exact ih.count times
  | sepBy _ _ item separator => exact item.sepBy separator limit
  | sepBy1 _ _ item separator => exact item.sepBy1 separator limit
  | endBy _ _ item separator => exact (item.seqLeft separator).many limit
  | endBy1 _ _ item separator => exact (item.seqLeft separator).many1 limit
  | sepEndBy _ _ item separator => exact item.sepEndBy separator limit
  | sepEndBy1 _ _ item separator => exact item.sepEndBy1 separator limit
  | later _ ih => exact ih ()
  | rule name => exact calls name

end Grammar

namespace Rules

def unlabelled (rules : Rules τ) : Rules τ := fun name => (rules name).unlabelled

theorem agrees_unlabelled (rules : Rules τ) (limit depth : Nat) (name : ι) :
    (rules.parser limit depth name).Agrees (rules.unlabelled.parser limit depth name) := by
  induction depth generalizing name with
  | zero => exact .refl _
  | succ depth ih => exact (rules name).agrees_unlabelled ih limit

end Rules

namespace Grammar

variable {rules rules' : Rules τ} {g g' : Grammar τ α}

theorem run_agrees (same : g.unlabelled = g'.unlabelled)
    (rules_same : rules.unlabelled = rules'.unlabelled) (fuel : Nat) :
    (g.run rules fuel).Agrees (g'.run rules' fuel) := by
  have left : (g.run rules fuel).Agrees (g.unlabelled.run rules.unlabelled fuel) :=
    g.agrees_unlabelled (rules.agrees_unlabelled fuel fuel) fuel
  have right : (g'.run rules' fuel).Agrees (g'.unlabelled.run rules'.unlabelled fuel) :=
    g'.agrees_unlabelled (rules'.agrees_unlabelled fuel fuel) fuel
  rw [same, rules_same] at left
  exact left.trans right.symm

/-- Where one of two grammars replies, the other replies alike. -/
theorem Replies.relabel {state : State} {reply : Reply α} (same : g.unlabelled = g'.unlabelled)
    (rules_same : rules.unlabelled = rules'.unlabelled) (replies : g.Replies rules state reply) :
    ∃ reply', g'.Replies rules' state reply' ∧ unexplained reply = unexplained reply' := by
  obtain ⟨fuel, run⟩ := replies
  have agrees := run_agrees same rules_same fuel state
  rw [run] at agrees
  obtain ⟨reply', run', alike⟩ := Option.map_eq_some_iff.mp agrees.symm
  exact ⟨reply', ⟨fuel, run'⟩, alike.symm⟩

end Grammar

/-- What a diagnostic points at: all of it but what was expected. -/
def Failure.place (failure : Failure) : Nat × Nat × Option Char :=
  (failure.offset, failure.length, failure.found)

namespace Grammar

variable {rules rules' : Rules τ} {g g' : Grammar τ α}

theorem resultOf_place {reply reply' : Reply α} (alike : unexplained reply = unexplained reply') :
    (resultOf reply).mapError Failure.place = (resultOf reply').mapError Failure.place := by
  obtain ⟨expected | value, after⟩ := reply <;>
    obtain ⟨expected' | value', after'⟩ := reply' <;>
    simp only [unexplained, Outcome.mapFailure, Prod.mk.injEq, Outcome.success.injEq, reduceCtorEq,
      false_and, true_and] at alike
  · subst alike
    rfl
  · obtain ⟨rfl, rfl⟩ := alike
    rfl

theorem Replies.of_parse {fuel : Nat} {input : String} {result : Except Failure α}
    (parsed : g.parse rules fuel input = some result) :
    ∃ reply, g.Replies rules (.start input) reply ∧ resultOf reply = result := by
  obtain ⟨reply, run, shown⟩ := Option.map_eq_some_iff.mp parsed
  exact ⟨reply, ⟨fuel, run⟩, shown⟩

/-- Labels never steer a parse. Whatever label is put on, taken off or written in another way, a
run ends where it did, with the outcome and the state it had, and a diagnostic points at the same
place. -/
theorem replies_relabelled (same : g.unlabelled = g'.unlabelled)
    (rules_same : rules.unlabelled = rules'.unlabelled) :
    (∀ state,
      ((∃ reply, g.Replies rules state reply) ↔ ∃ reply', g'.Replies rules' state reply') ∧
      ∀ reply reply', g.Replies rules state reply → g'.Replies rules' state reply' →
        unexplained reply = unexplained reply') ∧
    ∀ fuel fuel' input result result', g.parse rules fuel input = some result →
      g'.parse rules' fuel' input = some result' →
      result.mapError Failure.place = result'.mapError Failure.place := by
  have alike : ∀ state reply reply', g.Replies rules state reply →
      g'.Replies rules' state reply' → unexplained reply = unexplained reply' := by
    intro state reply reply' replies replies'
    obtain ⟨other, others, known⟩ := replies.relabel same rules_same
    rwa [replies'.unique others]
  refine ⟨fun state => ⟨⟨?_, ?_⟩, alike state⟩, ?_⟩
  · rintro ⟨reply, replies⟩
    obtain ⟨reply', replies', _⟩ := replies.relabel same rules_same
    exact ⟨reply', replies'⟩
  · rintro ⟨reply', replies'⟩
    obtain ⟨reply, replies, _⟩ := replies'.relabel same.symm rules_same.symm
    exact ⟨reply, replies⟩
  · intro fuel fuel' input result result' parsed parsed'
    obtain ⟨reply, replies, rfl⟩ := Replies.of_parse parsed
    obtain ⟨reply', replies', rfl⟩ := Replies.of_parse parsed'
    exact resultOf_place (alike _ reply reply' replies replies')

/-- The same list of digits, with the labels on its parts and with one label on the whole. -/
theorem digits_relabelled :
    let parts : Grammar (fun _ : Empty => Unit) (List Char) :=
      .manyTill (.label "digit" (.satisfy Char.isDigit)) (.label "end" (.literal ";"))
    let whole : Grammar (fun _ : Empty => Unit) (List Char) :=
      .label "list" (.manyTill (.satisfy Char.isDigit) (.literal ";"))
    let reply : Reply (List Char) :=
      (.failure (.ofLabels ["end", "digit"]), ⟨"12x", 2, some 1⟩)
    let reply' : Reply (List Char) := (.failure (.literal ";"), ⟨"12x", 2, some 1⟩)
    parts.unlabelled = whole.unlabelled ∧ parts.Replies .empty (.start "12x") reply ∧
      whole.Replies .empty (.start "12x") reply' ∧ unexplained reply = unexplained reply' := by
  intro parts whole reply reply'
  have same : parts.unlabelled = whole.unlabelled := rfl
  have replies : parts.Replies .empty (.start "12x") reply := ⟨3, by decide⟩
  have replies' : whole.Replies .empty (.start "12x") reply' := ⟨3, by decide⟩
  exact ⟨same, replies, replies',
    ((replies_relabelled same rfl).1 _).2 _ _ replies replies'⟩

end Grammar

end CommittedChoice
