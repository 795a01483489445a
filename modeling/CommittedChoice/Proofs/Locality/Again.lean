import CommittedChoice.Grammar.Limit
import CommittedChoice.Proofs.Labels.Merge
import CommittedChoice.Proofs.Locality.Grammar

/-! A run that is repeated from where it started does what it did, and leaves the marker where it
left it: what a run does hangs on the text after the cursor, and moving the marker a second time
to the same place moves nothing. -/
namespace CommittedChoice

variable {ι : Type} {τ : ι → Type} {α β : Type}

namespace State

variable {state : State}

/-- The cursor stands between two characters of the source, as it does at the start and after
every run that has started so. -/
def OnBoundary (state : State) : Prop := Text.isBoundary state.source state.cursor

instance : Decidable state.OnBoundary := inferInstanceAs (Decidable (_ = true))

theorem OnBoundary.splits (placed : state.OnBoundary) : ∃ front text, state.Splits front text := by
  obtain ⟨front, text, split, size⟩ := Text.isBoundary_iff.mp placed
  exact ⟨front, text, split, size.symm⟩

theorem Splits.onBoundary {front text : List Char} (splits : state.Splits front text) :
    state.OnBoundary :=
  Text.isBoundary_iff.mpr ⟨front, text, splits.source, splits.cursor.symm⟩

/-- A trip that is made twice reaches no further the second time. -/
theorem rewind_follow (state : State) (trip : Trip) :
    ((state.follow trip).rewind state.cursor).follow trip = state.follow trip := by
  have reached : ∀ mark reach : Option Nat, max (max mark reach) reach = max mark reach := by
    intro mark reach
    cases mark <;> cases reach <;> simp
  simp only [follow, rewind, reached]

end State

namespace Grammar

variable {rules : Rules τ} {g : Grammar τ α} {state : State} {reply : Reply α}

namespace Replies

theorem onBoundary (replies : g.Replies rules state reply) (placed : state.OnBoundary) :
    reply.2.OnBoundary := by
  obtain ⟨front, text, splits⟩ := placed.splits
  obtain ⟨trip, within, after, _⟩ := replies.ends splits
  rw [after]
  exact (splits.follow within).onBoundary

theorem source_eq (replies : g.Replies rules state reply) (placed : state.OnBoundary) :
    reply.2.source = state.source := by
  obtain ⟨front, text, splits⟩ := placed.splits
  obtain ⟨trip, _, after, _⟩ := replies.ends splits
  rw [after, State.follow_source]

theorem rewound (replies : g.Replies rules state reply) (placed : state.OnBoundary) :
    (reply.2.rewind state.cursor).OnBoundary := by
  obtain ⟨front, text, splits⟩ := placed.splits
  exact (splits.rewind (replies.source_eq placed)).onBoundary

/-- The outcome is told by the place, whatever the marker. -/
theorem outcome_eq {state' : State} {reply' : Reply α} (replies : g.Replies rules state reply)
    (replies' : g.Replies rules state' reply') (placed : state.OnBoundary)
    (source : state'.source = state.source) (cursor : state'.cursor = state.cursor) :
    reply'.1 = reply.1 := by
  obtain ⟨front, text, splits⟩ := placed.splits
  obtain ⟨_, _, _, same⟩ := replies.ends splits
  rw [replies'.unique (same (splits.unmoved source cursor))]

/-- The state that a run leaves, put back to where the run started, leads to the same reply. -/
theorem again (replies : g.Replies rules state reply) (placed : state.OnBoundary) :
    g.Replies rules (reply.2.rewind state.cursor) reply := by
  obtain ⟨front, text, splits⟩ := placed.splits
  obtain ⟨trip, _, after, same⟩ := replies.ends splits
  have back : (reply.2.rewind state.cursor).Splits front text :=
    splits.rewind (replies.source_eq placed)
  have repeated := same back
  rwa [after, State.rewind_follow, ← after] at repeated

/-- A failure that has not moved the cursor may be repeated where it has come to. -/
theorem again_of_clean (replies : g.Replies rules state reply) (placed : state.OnBoundary)
    (clean : reply.2.cursor = state.cursor) : g.Replies rules reply.2 reply := by
  have repeated := replies.again placed
  rwa [← clean] at repeated

end Replies

/-- Every state of a repetition stands on a boundary, so that its last run can be repeated. -/
theorem onBoundary_of_chain {last : State} {values : List α}
    (chain : Chain (Succeeds (g.Replies rules)) state values last) (placed : state.OnBoundary) :
    last.OnBoundary :=
  (chain.keeping (fun _ _ _ placed (first : g.Replies rules _ (.success _, _)) =>
    first.onBoundary placed) placed).2

/-- What has gone on from a run has had a reply to go on from. -/
theorem exists_reply {onSuccess : α → State → Prop} {onFailure : Expected → State → Prop}
    (turn : (∃ value after, g.Replies rules state (.success value, after) ∧
        onSuccess value after) ∨
      ∃ expected after, g.Replies rules state (.failure expected, after) ∧
        onFailure expected after) : ∃ reply, g.Replies rules state reply := by
  obtain ⟨value, after, first, _⟩ | ⟨expected, after, first, _⟩ := turn
  · exact ⟨_, first⟩
  · exact ⟨_, first⟩

/-- A tree replies as another one when it does so wherever the other replies, and has run the
other wherever it replies itself. -/
theorem same_replies {h : Grammar τ β} {reply : Reply β} {k : Grammar τ β}
    (same : ∀ reply, h.Replies rules state reply → k.Replies rules state reply)
    (ran : ∀ reply, k.Replies rules state reply → ∃ reply', h.Replies rules state reply') :
    k.Replies rules state reply ↔ h.Replies rules state reply := by
  refine ⟨fun replies => ?_, same reply⟩
  obtain ⟨reply', replies'⟩ := ran reply replies
  rwa [replies.unique (same reply' replies')]

theorem replies_orElse_self (placed : state.OnBoundary) :
    (orElse g g).Replies rules state reply ↔ g.Replies rules state reply := by
  refine same_replies (fun reply replies => replies_orElse.mpr ?_) fun reply replies => ?_
  · obtain ⟨expected | value, after⟩ := reply
    · refine .inr ⟨expected, after, replies, ?_⟩
      split
      next clean =>
        refine .inr ⟨expected, after, replies.again_of_clean placed clean, ?_⟩
        rw [Expected.merge_self, ite_self]
      next => rfl
    · exact .inl ⟨value, after, replies, rfl⟩
  · exact exists_reply (replies_orElse.mp replies)

/-- The attempt gives back what it took, and the second run takes it again. -/
theorem replies_attempt_orElse (placed : state.OnBoundary) :
    (orElse (attempt g) g).Replies rules state reply ↔ g.Replies rules state reply := by
  refine same_replies (fun reply replies => replies_orElse.mpr ?_) fun reply replies => ?_
  · obtain ⟨expected | value, after⟩ := reply
    · refine .inr ⟨expected, after.rewind state.cursor,
        replies_attempt.mpr (.inr ⟨expected, after, replies, rfl⟩), ?_⟩
      have clean : (after.rewind state.cursor).cursor = state.cursor := rfl
      rw [if_pos clean]
      refine .inr ⟨expected, after, replies.again placed, ?_⟩
      rw [Expected.merge_self, ite_self]
    · exact .inl ⟨value, after, replies_attempt.mpr (.inl ⟨value, after, replies, rfl⟩), rfl⟩
  · obtain ⟨_, first⟩ := exists_reply (replies_orElse.mp replies)
    exact exists_reply (replies_attempt.mp first)

theorem replies_lookAhead_seqRight (placed : state.OnBoundary) :
    (seqRight (lookAhead g) g).Replies rules state reply ↔ g.Replies rules state reply := by
  refine same_replies (fun reply replies => replies_seqRight.mpr (replies_bind.mpr ?_))
    fun reply replies => ?_
  · obtain ⟨expected | value, after⟩ := reply
    · exact .inr ⟨expected, after,
        replies_lookAhead.mpr (.inr ⟨expected, after, replies, rfl⟩), rfl⟩
    · exact .inl ⟨value, after.rewind state.cursor,
        replies_lookAhead.mpr (.inl ⟨value, after, replies, rfl⟩), replies.again placed⟩
  · obtain ⟨_, first⟩ := exists_reply (replies_bind.mp (replies_seqRight.mp replies))
    exact exists_reply (replies_lookAhead.mp first)

/-- The run that has stopped the repetition fails again behind it. -/
theorem replies_many_notFollowedBy {reply : Reply (List α)} (placed : state.OnBoundary) :
    (seqLeft (many g) (notFollowedBy g)).Replies rules state reply ↔
      (many g).Replies rules state reply := by
  refine same_replies (fun reply replies => replies_seqLeft.mpr (replies_bind.mpr ?_))
    fun reply replies => ?_
  · obtain ⟨values, last, chain, expected, after, failed, rfl⟩ := replies_many.mp replies
    refine .inl ⟨values, _, replies, replies_map.mpr (.inl ⟨(), _, ?_, rfl⟩)⟩
    exact replies_notFollowedBy.mpr
      (.inr ⟨expected, after, failed.again (onBoundary_of_chain chain placed), rfl⟩)
  · exact exists_reply (replies_bind.mp (replies_seqLeft.mp replies))

/-- Re-running a grammar is harmless, from every state whose cursor stands between two characters:
the second run does what the first one did, and moves the marker no further. -/
theorem reruns_harmless (rules : Rules τ) (g : Grammar τ α) {state : State}
    (placed : state.OnBoundary) :
    (∀ reply, (orElse g g).Replies rules state reply ↔ g.Replies rules state reply) ∧
      (∀ reply, (orElse (attempt g) g).Replies rules state reply ↔
        g.Replies rules state reply) ∧
      (∀ reply, (seqRight (lookAhead g) g).Replies rules state reply ↔
        g.Replies rules state reply) ∧
      ∀ reply, (seqLeft (many g) (notFollowedBy g)).Replies rules state reply ↔
        (many g).Replies rules state reply :=
  ⟨fun _ => replies_orElse_self placed, fun _ => replies_attempt_orElse placed,
    fun _ => replies_lookAhead_seqRight placed, fun _ => replies_many_notFollowedBy placed⟩

/-- The run has consumed a letter when it fails, and the second run fails in the same way. -/
theorem broken_piece_rerun :
    let piece : Grammar (fun _ : Empty => Unit) String := .literal "ab"
    let state : State := ⟨"éax", 2, none⟩
    let reply : Reply String := (.failure (.literal "ab"), ⟨"éax", 3, some 2⟩)
    state.OnBoundary ∧ piece.Replies .empty state reply ∧
      (orElse piece piece).Replies .empty state reply ∧
      (orElse (attempt piece) piece).Replies .empty state reply ∧
      (seqRight (lookAhead piece) piece).Replies .empty state reply ∧
      (seqLeft (many piece) (notFollowedBy piece)).Replies .empty state
        (.success [], ⟨"éax", 2, some 2⟩) := by
  intro piece state reply
  have placed : state.OnBoundary := by decide
  have run : piece.Replies .empty state reply := ⟨1, by decide⟩
  have repeated : (many piece).Replies .empty state (.success [], ⟨"éax", 2, some 2⟩) :=
    ⟨1, by decide⟩
  obtain ⟨orElse, attempt, lookAhead, many⟩ := reruns_harmless .empty piece placed
  exact ⟨placed, run, (orElse reply).mpr run, (attempt reply).mpr run, (lookAhead reply).mpr run,
    (many _).mpr repeated⟩

end Grammar

end CommittedChoice
