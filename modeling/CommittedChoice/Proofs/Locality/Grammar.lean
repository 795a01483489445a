import CommittedChoice.Grammar.Fuel
import CommittedChoice.Proofs.Locality.Loops

/-! Every grammar is local with its rules, at every fuel: the induction is on the tree, and for the
rules on how deep they are entered. Two runs over the same remaining text are therefore alike. -/
namespace CommittedChoice

variable {ι : Type} {τ : ι → Type} {α : Type}

theorem Grammar.parser_local {call : (name : ι) → Parser (τ name)}
    (calls : ∀ name, (call name).Local) (limit : Nat) (g : Grammar τ α) :
    (g.parser call limit).Local := by
  induction g with
  | pure value => exact .pure value
  | fail expected => exact .fail expected
  | readChar => exact .readChar
  | consumeOne => exact .consumeOne
  | satisfy accepts => exact .satisfy accepts
  | literal text => exact .literal text
  | map f _ ih => exact ih.map f
  | bind _ _ ih next => exact ih.bind next
  | seqRight _ _ first second => exact first.seqRight second
  | seqLeft _ _ first second => exact first.seqLeft second
  | seqPair _ _ first second => exact first.seqPair second
  | between _ _ _ opening closing ih => exact opening.between closing ih
  | recognize _ ih => exact ih.recognize
  | orElse _ _ first second => exact first.orElse second
  | choice _ each =>
    refine .choice fun parser member => ?_
    obtain ⟨i, rfl⟩ := List.mem_ofFn.mp member
    exact each i
  | attempt _ ih => exact ih.attempt
  | lookAhead _ ih => exact ih.lookAhead
  | notFollowedBy _ ih => exact ih.notFollowedBy
  | label text _ ih => exact ih.label text
  | option default _ ih => exact ih.option default
  | optional _ ih => exact ih.optional
  | many _ ih => exact ih.many limit
  | many1 _ ih => exact ih.many1 limit
  | manyTill _ _ ih terminator => exact ih.manyTill terminator limit
  | count times _ ih => exact ih.count times
  | sepBy _ _ item separator => exact item.sepBy separator limit
  | sepBy1 _ _ item separator => exact item.sepBy1 separator limit
  | endBy _ _ item separator => exact (item.seqLeft separator).many limit
  | endBy1 _ _ item separator => exact (item.seqLeft separator).many1 limit
  | sepEndBy _ _ item separator => exact item.sepEndBy separator limit
  | sepEndBy1 _ _ item separator => exact item.sepEndBy1 separator limit
  | later _ ih => exact ih ()
  | rule name => exact calls name

theorem Rules.parser_local (rules : Rules τ) (limit depth : Nat) (name : ι) :
    (rules.parser limit depth name).Local := by
  induction depth generalizing name with
  | zero => exact fun _ => .inl fun _ => rfl
  | succ depth ih => exact (rules name).parser_local ih limit

theorem Grammar.run_local (rules : Rules τ) (fuel : Nat) (g : Grammar τ α) :
    (g.run rules fuel).Local :=
  g.parser_local (rules.parser_local fuel fuel) fuel

namespace State

/-- The marker moved to a distance from the cursor, or left where it was. -/
def reaching (state : State) : Option Nat → Option Nat
  | none => state.furthest
  | some distance => some (deepest state.furthest (state.cursor + distance))

theorem follow_furthest (state : State) (trip : Trip) :
    (state.follow trip).furthest = state.reaching trip.reach := by
  cases reach : trip.reach <;> cases furthest : state.furthest <;>
    simp [follow, reaching, deepest, reach, furthest]

theorem splits_of_rest? {state : State} {text : String} (rest : state.rest? = some text) :
    ∃ front, state.Splits front text.toList := by
  have place : Text.isBoundary state.source state.cursor := by
    rw [rest?, Text.drop?, Text.slice?] at rest
    split at rest
    next ordered => exact ordered.2.1
    next => cases rest
  obtain ⟨front, back, split, size⟩ := Text.isBoundary_iff.mp place
  have splits : state.Splits front back := ⟨split, size.symm⟩
  rw [splits.rest?, Option.some.injEq] at rest
  rw [← rest, String.toList_ofList]
  exact ⟨front, splits⟩

end State

namespace Grammar

/-- Two runs did the same, told from where each of them started. -/
structure Alike (state state' : State) (reply reply' : Reply α) : Prop where
  outcome : reply.1 = reply'.1
  moved : ∃ bytes, reply.2.cursor = state.cursor + bytes ∧ reply'.2.cursor = state'.cursor + bytes
  reached : ∃ reach : Option Nat,
    reply.2.furthest = state.reaching reach ∧ reply'.2.furthest = state'.reaching reach

namespace Replies

variable {rules : Rules τ} {g : Grammar τ α} {state : State} {front text : List Char}
  {reply : Reply α}

/-- What one run did, every run does over a text that shows it the same characters. -/
theorem seen (replies : g.Replies rules state reply) (splits : state.Splits front text) :
    ∃ trip, trip.Within text ∧ reply.2 = state.follow trip ∧
      ∀ {state' front' other}, trip.Sees text other → State.Splits state' front' other →
        g.Replies rules state' (reply.1, state'.follow trip) := by
  obtain ⟨fuel, run⟩ := replies
  obtain ⟨trip, ends, after⟩ := (g.run_local rules fuel).ends splits run
  exact ⟨trip, ends.within, after, fun sees splits' => ⟨fuel, ends.alike sees splits'⟩⟩

theorem ends (replies : g.Replies rules state reply) (splits : state.Splits front text) :
    ∃ trip, trip.Within text ∧ reply.2 = state.follow trip ∧
      ∀ {state' front'}, State.Splits state' front' text →
        g.Replies rules state' (reply.1, state'.follow trip) := by
  obtain ⟨trip, within, after, same⟩ := replies.seen splits
  exact ⟨trip, within, after, fun splits' => same (.same text) splits'⟩

end Replies

/-- A grammar sees the text after the cursor and nothing else of the state. Only a state whose
cursor stands between two characters has such a text. -/
theorem replies_alike (rules : Rules τ) (g : Grammar τ α) {state state' : State} {text : String}
    (rest : state.rest? = some text) (rest' : state'.rest? = some text) :
    ((∃ reply, g.Replies rules state reply) ↔ ∃ reply', g.Replies rules state' reply') ∧
      ∀ reply reply', g.Replies rules state reply → g.Replies rules state' reply' →
        Alike state state' reply reply' := by
  obtain ⟨front, splits⟩ := State.splits_of_rest? rest
  obtain ⟨front', splits'⟩ := State.splits_of_rest? rest'
  refine ⟨⟨?_, ?_⟩, ?_⟩
  · rintro ⟨reply, replies⟩
    obtain ⟨_, _, _, same⟩ := replies.ends splits
    exact ⟨_, same splits'⟩
  · rintro ⟨reply', replies'⟩
    obtain ⟨_, _, _, same⟩ := replies'.ends splits'
    exact ⟨_, same splits⟩
  · intro reply reply' replies replies'
    obtain ⟨trip, _, after, same⟩ := replies.ends splits
    obtain rfl := replies'.unique (same splits')
    rw [show reply = (reply.1, state.follow trip) from Prod.ext rfl after]
    exact ⟨rfl, ⟨Text.size trip.taken, rfl, rfl⟩,
      ⟨trip.reach, state.follow_furthest trip, state'.follow_furthest trip⟩⟩

/-- The abandoned round moves both markers to the character after the last piece. -/
theorem pieces_alike :
    let pieces : Grammar (fun _ : Empty => Unit) (List String) :=
      .many (.orElse (.attempt (.literal "ab")) (.literal "é"))
    State.rest? ⟨"abéax", 0, none⟩ = some "abéax" ∧
      State.rest? ⟨"ßabéax", 2, some 0⟩ = some "abéax" ∧
      pieces.Replies .empty ⟨"abéax", 0, none⟩ (.success ["ab", "é"], ⟨"abéax", 4, some 4⟩) ∧
      pieces.Replies .empty ⟨"ßabéax", 2, some 0⟩ (.success ["ab", "é"], ⟨"ßabéax", 6, some 6⟩) ∧
      Alike ⟨"abéax", 0, none⟩ ⟨"ßabéax", 2, some 0⟩
        (.success ["ab", "é"], ⟨"abéax", 4, some 4⟩)
        (.success ["ab", "é"], ⟨"ßabéax", 6, some 6⟩) := by
  intro pieces
  have rest : State.rest? ⟨"abéax", 0, none⟩ = some "abéax" := by decide
  have rest' : State.rest? ⟨"ßabéax", 2, some 0⟩ = some "abéax" := by decide
  have run : pieces.Replies .empty ⟨"abéax", 0, none⟩
      (.success ["ab", "é"], ⟨"abéax", 4, some 4⟩) := ⟨4, by decide⟩
  have run' : pieces.Replies .empty ⟨"ßabéax", 2, some 0⟩
      (.success ["ab", "é"], ⟨"ßabéax", 6, some 6⟩) := ⟨4, by decide⟩
  exact ⟨rest, rest', run, run', (replies_alike .empty pieces rest rest').2 _ _ run run'⟩

end Grammar

end CommittedChoice
