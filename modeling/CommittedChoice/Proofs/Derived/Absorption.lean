import CommittedChoice.Grammar.Characters
import CommittedChoice.Grammar.Limit
import CommittedChoice.Proofs.Diagnosis.Logs
import CommittedChoice.Proofs.Matching.GivesBack

/-! Combinators that attempt their parts. An attempt around such a part is one attempt more and
changes no reply: what is given back by the combinator has been given back before. Where one of them
fails, nothing is left of the failed run but its marker. -/
namespace CommittedChoice

variable {α β : Type}

namespace Parser

variable {p p' : Parser α} {q q' : Parser β}

theorem attempt_attempt (p : Parser α) : p.attempt.attempt = p.attempt := by
  funext state
  rcases run : p state with _ | ⟨expected | value, after⟩ <;> simp [attempt, run, State.rewind]

theorem attempt_map (f : α → β) (p : Parser α) : p.attempt.map f = (p.map f).attempt := by
  funext state
  rcases run : p state with _ | ⟨expected | value, after⟩ <;> simp [attempt, map, run]

/-- Two runs that are given back as a whole need not be given back one by one. -/
theorem attempt_bind (p : Parser α) (k : α → Parser β) :
    (p.attempt.bind fun value => (k value).attempt).attempt = (p.bind k).attempt := by
  funext state
  rcases run : p state with _ | ⟨expected | value, middle⟩
  · simp [attempt, bind, run]
  · simp [attempt, bind, run, State.rewind]
  · rcases run' : k value middle with _ | ⟨expected | other, after⟩ <;>
      simp [attempt, bind, run, run', State.rewind]

theorem attempt_seqRight (p : Parser α) (q : Parser β) :
    (p.attempt.seqRight q.attempt).attempt = (p.seqRight q).attempt :=
  attempt_bind p fun _ => q

theorem attempt_seqLeft (p : Parser α) (q : Parser β) :
    (p.attempt.seqLeft q.attempt).attempt = (p.seqLeft q).attempt := calc
  (p.attempt.bind fun value => q.attempt.map fun _ => value).attempt
    = (p.attempt.bind fun value => (q.map fun _ => value).attempt).attempt := by
      simp only [attempt_map]
  _ = (p.bind fun value => q.map fun _ => value).attempt := attempt_bind p _

theorem notFollowedBy_attempt (p : Parser α) : p.attempt.notFollowedBy = p.notFollowedBy := by
  funext state
  rcases run : p state with _ | ⟨expected | value, after⟩ <;>
    simp [attempt, notFollowedBy, run, State.rewind]

/-! A loop sees attempts of its parts and nothing else of them. -/
section Loops

variable (item : p.attempt = p'.attempt)
include item

theorem gather_congr (limit : Nat) (taken : List α) :
    gather p limit taken = gather p' limit taken := by
  induction limit generalizing taken with
  | zero => rfl
  | succ limit ih =>
    funext state
    simp only [gather, item, ih]

theorem many1_congr (limit : Nat) : many1 limit p = many1 limit p' := by
  funext state
  simp only [many1, item, gather_congr item]

theorem sepBy_congr (round : (q.seqRight p).attempt = (q'.seqRight p').attempt) (limit : Nat) :
    sepBy limit p q = sepBy limit p' q' := by
  funext state
  simp only [sepBy, item, gatherSeparated_eq, gather_congr round]

theorem sepBy1_congr (round : (q.seqRight p).attempt = (q'.seqRight p').attempt) (limit : Nat) :
    sepBy1 limit p q = sepBy1 limit p' q' := by
  funext state
  simp only [sepBy1, item, gatherSeparated_eq, gather_congr round]

variable (separator : q.attempt = q'.attempt)
include separator

theorem gatherSepEnd_congr (limit : Nat) (taken : List α) :
    gatherSepEnd p q limit taken = gatherSepEnd p' q' limit taken := by
  induction limit generalizing taken with
  | zero => rfl
  | succ limit ih =>
    funext state
    simp only [gatherSepEnd, item, separator, ih]

theorem sepEndBy_congr (limit : Nat) : sepEndBy limit p q = sepEndBy limit p' q' := by
  funext state
  simp only [sepEndBy, item, gatherSepEnd_congr item separator]

theorem sepEndBy1_congr (limit : Nat) : sepEndBy1 limit p q = sepEndBy1 limit p' q' := by
  funext state
  simp only [sepEndBy1, item, gatherSepEnd_congr item separator]

end Loops

end Parser

/-- All that is left of a run is the marker, which has been moved on at most. -/
structure State.Marked (state after : State) : Prop where
  source : after.source = state.source
  cursor : after.cursor = state.cursor
  furthest : ∀ marker ∈ state.furthest, ∃ later ∈ after.furthest, marker ≤ later

namespace Grammar

variable {ι : Type} {τ : ι → Type} {rules : Rules τ} {g h : Grammar τ α}
  {state after : State} {expected : Expected}

/-- One tree replies as the other does, from every state. -/
def RepliesAs (rules : Rules τ) (g h : Grammar τ α) : Prop :=
  ∀ state reply, g.Replies rules state reply ↔ h.Replies rules state reply

theorem repliesAs_of_run (same : ∀ fuel, g.run rules fuel = h.run rules fuel) :
    g.RepliesAs rules h := by
  intro state reply
  simp only [Replies, same]

/-- Wherever the tree fails, it leaves the state it started from with a marker moved on at most. -/
def Rewinds (rules : Rules τ) (g : Grammar τ α) : Prop :=
  ∀ ⦃state expected after⦄, g.Replies rules state (.failure expected, after) → state.Marked after

def NeverFails (rules : Rules τ) (g : Grammar τ α) : Prop :=
  ∀ state expected after, ¬g.Replies rules state (.failure expected, after)

theorem GivesBack.rewinds (gives : g.GivesBack) : g.Rewinds rules := by
  rintro state expected after ⟨fuel, run⟩
  have clean := parser_givesBack (rules.parser fuel fuel) fuel gives state expected after run
  have track := run_tracked rules fuel g run
  exact ⟨track.source, clean, track.furthest⟩

theorem neverFails_many : (many g).NeverFails rules := by
  intro state expected after failed
  obtain ⟨_, _, _, _, _, _, ⟨⟩⟩ := replies_many.mp failed

section Lists

variable {separator : Grammar τ β}

theorem neverFails_sepBy : (sepBy g separator).NeverFails rules := by
  intro state expected after failed
  obtain ⟨_, _, _, _, _, _, _, _, _, ⟨⟩⟩ | ⟨_, _, _, ⟨⟩⟩ := replies_sepBy.mp failed

theorem neverFails_endBy : (endBy g separator).NeverFails rules :=
  fun state expected after failed =>
    neverFails_many state expected after (replies_endBy.mp failed)

theorem neverFails_sepEndBy : (sepEndBy g separator).NeverFails rules := by
  intro state expected after failed
  obtain ⟨_, _, _, _, _, _, ⟨_, _, _, ⟨⟩⟩ | ⟨_, _, _, _, _, _, ⟨⟩⟩⟩ | ⟨_, _, _, ⟨⟩⟩ :=
    replies_sepEndBy.mp failed

end Lists

/-- Combinators that attempt their parts absorb an attempt around them. A failure of one that gives
its input back, the end of input among them, leaves nothing but a marker; and the loops that may
answer an empty list do not fail at all. -/
theorem attempts_absorbed (rules : Rules τ) (g : Grammar τ α) (s : Grammar τ β) :
    ((attempt (attempt g)).RepliesAs rules (attempt g) ∧
      (many (attempt g)).RepliesAs rules (many g) ∧
      (many1 (attempt g)).RepliesAs rules (many1 g) ∧
      (sepBy (attempt g) (attempt s)).RepliesAs rules (sepBy g s) ∧
      (sepBy1 (attempt g) (attempt s)).RepliesAs rules (sepBy1 g s) ∧
      (sepEndBy (attempt g) (attempt s)).RepliesAs rules (sepEndBy g s) ∧
      (sepEndBy1 (attempt g) (attempt s)).RepliesAs rules (sepEndBy1 g s) ∧
      (endBy (attempt g) (attempt s)).RepliesAs rules (endBy g s) ∧
      (endBy1 (attempt g) (attempt s)).RepliesAs rules (endBy1 g s) ∧
      (notFollowedBy (attempt g)).RepliesAs rules (notFollowedBy g)) ∧
    ((attempt g).Rewinds rules ∧ (notFollowedBy g).Rewinds rules ∧ (many1 g).Rewinds rules ∧
      (sepBy1 g s).Rewinds rules ∧ (sepEndBy1 g s).Rewinds rules ∧ (endBy1 g s).Rewinds rules ∧
      (eof : Grammar τ Unit).Rewinds rules) ∧
    (many g).NeverFails rules ∧ (sepBy g s).NeverFails rules ∧ (endBy g s).NeverFails rules ∧
      (sepEndBy g s).NeverFails rules := by
  refine ⟨⟨?_, ?_, ?_, ?_, ?_, ?_, ?_, ?_, ?_, ?_⟩, ?_, neverFails_many, neverFails_sepBy,
    neverFails_endBy, neverFails_sepEndBy⟩
  · exact repliesAs_of_run fun _ => Parser.attempt_attempt _
  · exact repliesAs_of_run fun fuel => Parser.gather_congr (Parser.attempt_attempt _) fuel []
  · exact repliesAs_of_run fun fuel => Parser.many1_congr (Parser.attempt_attempt _) fuel
  · exact repliesAs_of_run fun fuel =>
      Parser.sepBy_congr (Parser.attempt_attempt _) (Parser.attempt_seqRight _ _) fuel
  · exact repliesAs_of_run fun fuel =>
      Parser.sepBy1_congr (Parser.attempt_attempt _) (Parser.attempt_seqRight _ _) fuel
  · exact repliesAs_of_run fun fuel =>
      Parser.sepEndBy_congr (Parser.attempt_attempt _) (Parser.attempt_attempt _) fuel
  · exact repliesAs_of_run fun fuel =>
      Parser.sepEndBy1_congr (Parser.attempt_attempt _) (Parser.attempt_attempt _) fuel
  · exact repliesAs_of_run fun fuel => Parser.gather_congr (Parser.attempt_seqLeft _ _) fuel []
  · exact repliesAs_of_run fun fuel => Parser.many1_congr (Parser.attempt_seqLeft _ _) fuel
  · exact repliesAs_of_run fun _ => Parser.notFollowedBy_attempt _
  · exact ⟨GivesBack.rewinds trivial, GivesBack.rewinds trivial, GivesBack.rewinds trivial,
      GivesBack.rewinds trivial, GivesBack.rewinds trivial, GivesBack.rewinds trivial,
      GivesBack.rewinds trivial⟩

/-- The last word is broken off behind a separator, and the first one where there is no other. -/
theorem broken_words_absorbed :
    let word : Grammar (fun _ : Empty => Unit) String := .literal "éb"
    let comma : Grammar (fun _ : Empty => Unit) String := .literal ", "
    let state : State := ⟨"x éx", 2, some 1⟩
    let after : State := ⟨"x éx", 2, some 2⟩
    (sepBy (attempt word) (attempt comma)).Replies .empty (.start "éb, éx")
        (.success ["éb"], ⟨"éb, éx", 3, some 5⟩) ∧
      (sepEndBy1 word comma).Replies .empty state (.failure (.literal "éb"), after) ∧
      state.Marked after := by
  intro word comma state after
  have listed : (sepBy word comma).Replies .empty (.start "éb, éx")
      (.success ["éb"], ⟨"éb, éx", 3, some 5⟩) := ⟨2, by decide⟩
  have failed : (sepEndBy1 word comma).Replies .empty state
      (.failure (.literal "éb"), after) := ⟨1, by decide⟩
  obtain ⟨absorbed, rewinds, _⟩ := attempts_absorbed .empty word comma
  exact ⟨(absorbed.2.2.2.1 _ _).mpr listed, failed, rewinds.2.2.2.2.1 failed⟩

end Grammar

end CommittedChoice
