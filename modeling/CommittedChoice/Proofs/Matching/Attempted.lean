import CommittedChoice.Grammar.Characters
import CommittedChoice.Proofs.Locality.Grammar
import CommittedChoice.Proofs.Matching.Follows

/-! Grammars in which everything that another run may replace gives back what it took. They are
read as parsing expressions: consumption, which decides every choice of a parser, decides nothing
that can be told of them. -/
namespace CommittedChoice

variable {ι : Type} {τ : ι → Type} {α : Type}

namespace Grammar

/-- Every alternative but the last, every optional part and every terminator gives back what it
took. -/
def FullyAttempted : {α : Type} → Grammar τ α → Prop
  | _, .pure _ | _, .fail _ | _, .readChar | _, .consumeOne | _, .satisfy _ | _, .literal _
  | _, .rule _ => True
  | _, .map _ g => g.FullyAttempted
  | _, .bind g next => g.FullyAttempted ∧ ∀ value, (next value).FullyAttempted
  | _, .seqRight first second => first.FullyAttempted ∧ second.FullyAttempted
  | _, .seqLeft first second => first.FullyAttempted ∧ second.FullyAttempted
  | _, .seqPair first second => first.FullyAttempted ∧ second.FullyAttempted
  | _, .between opening closing g =>
    opening.FullyAttempted ∧ closing.FullyAttempted ∧ g.FullyAttempted
  | _, .recognize g => g.FullyAttempted
  | _, .orElse first second =>
    first.GivesBack ∧ first.FullyAttempted ∧ second.FullyAttempted
  | _, @choice _ _ _ n alternatives =>
    (∀ i : Fin n, i.val + 1 < n → (alternatives i).GivesBack) ∧
      ∀ i, (alternatives i).FullyAttempted
  | _, .attempt g => g.FullyAttempted
  | _, .lookAhead g => g.FullyAttempted
  | _, .notFollowedBy g => g.FullyAttempted
  | _, .label _ g => g.FullyAttempted
  | _, .option _ g => g.GivesBack ∧ g.FullyAttempted
  | _, .optional g => g.GivesBack ∧ g.FullyAttempted
  | _, .many g => g.FullyAttempted
  | _, .many1 g => g.FullyAttempted
  | _, .manyTill g terminator =>
    terminator.GivesBack ∧ terminator.FullyAttempted ∧ g.FullyAttempted
  | _, @count _ _ _ _ _ g => g.FullyAttempted
  | _, .sepBy item separator => item.FullyAttempted ∧ separator.FullyAttempted
  | _, .sepBy1 item separator => item.FullyAttempted ∧ separator.FullyAttempted
  | _, .endBy item separator => item.FullyAttempted ∧ separator.FullyAttempted
  | _, .endBy1 item separator => item.FullyAttempted ∧ separator.FullyAttempted
  | _, .sepEndBy item separator => item.FullyAttempted ∧ separator.FullyAttempted
  | _, .sepEndBy1 item separator => item.FullyAttempted ∧ separator.FullyAttempted
  | _, .later build => (build ()).FullyAttempted

theorem parser_follows {call : (name : ι) → Parser (τ name)}
    {call' : (name : ι) → Matcher (τ name)} (calls : ∀ name, (call name).Follows (call' name))
    (limit : Nat) {g : Grammar τ α} (fully : g.FullyAttempted) :
    (g.parser call limit).Follows (g.matcher call' limit) := by
  have gives {β : Type} {h : Grammar τ β} (known : h.GivesBack) :=
    parser_givesBack call limit known
  induction g with
  | pure value => exact .pure value
  | fail expected => exact .fail expected
  | readChar => exact .readChar
  | consumeOne => exact .consumeOne
  | satisfy accepts => exact .satisfy accepts
  | literal text => exact .literal text
  | map f _ ih => exact (ih fully).map f
  | bind _ _ ih next => exact (ih fully.1).bind fun value => next value (fully.2 value)
  | seqRight _ _ first second => exact (first fully.1).seqRight (second fully.2)
  | seqLeft _ _ first second => exact (first fully.1).seqLeft (second fully.2)
  | seqPair _ _ first second => exact (first fully.1).seqPair (second fully.2)
  | between _ _ _ opening closing ih =>
    exact (opening fully.1).seqRight ((ih fully.2.2).seqLeft (closing fully.2.1))
  | recognize _ ih => exact (ih fully).recognize
  | orElse _ _ first second =>
    exact .orElse (gives fully.1) (first fully.2.1) (second fully.2.2)
  | choice _ each =>
    exact .choice (fun i last => gives (fully.1 i last)) fun i => each i (fully.2 i)
  | attempt _ ih => exact (ih fully).attempt
  | lookAhead _ ih => exact (ih fully).lookAhead
  | notFollowedBy _ ih => exact (ih fully).notFollowedBy
  | label text _ ih => exact (ih fully).label text
  | option default _ ih => exact (ih fully.2).option default (gives fully.1)
  | optional _ ih => exact (ih fully.2).optional (gives fully.1)
  | many _ ih => exact (ih fully).many limit
  | many1 _ ih => exact (ih fully).many1 limit
  | manyTill _ _ ih terminator =>
    exact (ih fully.2.2).manyTill (gives fully.1) (terminator fully.2.1) limit
  | count times _ ih => exact (ih fully).count times
  | sepBy _ _ item separator => exact (item fully.1).sepBy (separator fully.2) limit
  | sepBy1 _ _ item separator => exact (item fully.1).sepBy1 (separator fully.2) limit
  | endBy _ _ item separator => exact ((item fully.1).seqLeft (separator fully.2)).many limit
  | endBy1 _ _ item separator => exact ((item fully.1).seqLeft (separator fully.2)).many1 limit
  | sepEndBy _ _ item separator => exact (item fully.1).sepEndBy (separator fully.2) limit
  | sepEndBy1 _ _ item separator => exact (item fully.1).sepEndBy1 (separator fully.2) limit
  | later _ ih => exact ih () fully
  | rule name => exact calls name

end Grammar

variable {rules : Rules τ}

theorem Rules.parser_follows (fully : ∀ name, (rules name).FullyAttempted) (limit depth : Nat)
    (name : ι) : (rules.parser limit depth name).Follows (rules.matcher limit depth name) := by
  induction depth generalizing name with
  | zero => exact fun _ _ _ _ => .none
  | succ depth ih => exact Grammar.parser_follows ih limit (fully name)

namespace Grammar

variable {g : Grammar τ α}

/-- A reply shows a match, with its value and the text that remains, or that there is none. -/
inductive Shows : Reply α → Match α → Prop where
  | success {value : α} {after : State} {left : List Char}
      (rest : after.rest? = some (String.ofList left)) :
      Shows (.success value, after) (some (value, left))
  | failure {expected : Expected} {after : State} : Shows (.failure expected, after) none

theorem Shows.unique {reply : Reply α} {result result' : Match α} (shows : Shows reply result)
    (shows' : Shows reply result') : result = result' := by
  cases shows with
  | success rest =>
    cases shows' with
    | success rest' =>
      have same := Option.some.inj (rest.symm.trans rest')
      rw [String.ofList_inj.mp same]
  | failure =>
    cases shows'
    rfl

/-- At the same fuel the run and the match end together, or neither of them has ended. -/
theorem run_shows (fully : g.FullyAttempted) (rules_fully : ∀ name, (rules name).FullyAttempted)
    {state : State} {text : String} (rest : state.rest? = some text) (fuel : Nat) :
    Option.Rel Shows (g.run rules fuel state)
      (g.matcher (rules.matcher fuel fuel) fuel text.toList) := by
  obtain ⟨front, splits⟩ := State.splits_of_rest? rest
  have told := parser_follows (Rules.parser_follows rules_fully fuel fuel) fuel fully splits
  refine rel_mono told fun reply result tells => ?_
  cases tells with
  | success _ splits' => exact .success splits'.rest?
  | failure _ => exact .failure

/-- Fully attempted grammars are parsing expressions. A run ends where the expression ends, and
then it succeeds exactly where the expression matches the remaining text, with the same value and
the same rest. -/
theorem replies_matches (fully : g.FullyAttempted)
    (rules_fully : ∀ name, (rules name).FullyAttempted) {state : State} {text : String}
    (rest : state.rest? = some text) :
    ((∃ reply, g.Replies rules state reply) ↔ ∃ result, g.Matches rules text.toList result) ∧
      ∀ reply, g.Replies rules state reply →
        ∀ result, g.Matches rules text.toList result ↔ Shows reply result := by
  -- Fuel that is enough for one of the two is enough for the other.
  have shown : ∀ result, g.Matches rules text.toList result →
      ∃ reply, g.Replies rules state reply ∧ Shows reply result := by
    rintro result ⟨fuel, found⟩
    have told := run_shows fully rules_fully rest fuel
    rw [found] at told
    obtain ⟨reply, ended, shows⟩ := exists_of_rel_of_some told
    exact ⟨reply, ⟨fuel, ended⟩, shows⟩
  have found : ∀ reply, g.Replies rules state reply →
      ∃ result, g.Matches rules text.toList result ∧ Shows reply result := by
    rintro reply ⟨fuel, ended⟩
    have told := run_shows fully rules_fully rest fuel
    rw [ended] at told
    obtain ⟨result, found, shows⟩ := exists_of_rel_some told
    exact ⟨result, ⟨fuel, found⟩, shows⟩
  refine ⟨⟨?_, ?_⟩, fun reply replies result => ⟨fun matched => ?_, fun shows => ?_⟩⟩
  · rintro ⟨reply, replies⟩
    obtain ⟨result, matched, _⟩ := found reply replies
    exact ⟨result, matched⟩
  · rintro ⟨result, matched⟩
    obtain ⟨reply, replies, _⟩ := shown result matched
    exact ⟨reply, replies⟩
  · obtain ⟨reply', replies', shows⟩ := shown result matched
    rwa [replies.unique replies']
  · obtain ⟨result', matched, shows'⟩ := found reply replies
    rwa [shows.unique shows']

/-- The first alternative fails having consumed a letter, which its attempt gives back to the
second. The end of the line has a choice of its own. -/
theorem pieces_match :
    let piece : Grammar (fun _ : Empty => Unit) String :=
      .orElse (.attempt (.literal "ab")) (.literal "ac")
    let pieces : Grammar (fun _ : Empty => Unit) (List String) :=
      .manyTill piece (.attempt endOfLine)
    let reply : Reply (List String) := (.success ["ab", "ac"], ⟨"ßabac\nx", 7, some 6⟩)
    pieces.FullyAttempted ∧ State.rest? ⟨"ßabac\nx", 2, some 0⟩ = some "abac\nx" ∧
      pieces.Replies .empty ⟨"ßabac\nx", 2, some 0⟩ reply ∧
      pieces.Matches .empty "abac\nx".toList (some (["ab", "ac"], ['x'])) := by
  intro piece pieces reply
  have fully : pieces.FullyAttempted :=
    ⟨trivial, ⟨trivial, trivial, trivial⟩, trivial, trivial, trivial⟩
  have rest : State.rest? ⟨"ßabac\nx", 2, some 0⟩ = some "abac\nx" := by decide
  have replies : pieces.Replies .empty ⟨"ßabac\nx", 2, some 0⟩ reply := ⟨3, by decide⟩
  have shows : Shows reply (some (["ab", "ac"], ['x'])) := .success (by decide)
  exact ⟨fully, rest, replies,
    ((replies_matches fully nofun rest).2 reply replies _).mpr shows⟩

end Grammar

end CommittedChoice
