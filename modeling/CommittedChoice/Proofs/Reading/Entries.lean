import CommittedChoice.Proofs.Reading.Founded

/-! Where a run enters rules. What a run enters stands no earlier than the run has started, and in a
founded grammar a rule is entered at a larger cursor than the tree that it is in. So is each rule
inside a rule, and a run of founded rules ends with a reply. -/
namespace CommittedChoice.Grammar

variable {ι : Type} {τ : ι → Type} {α β : Type} {rules : Rules τ} {names : ι → Prop}
  {moved : Prop} {g : Grammar τ α} {h : Grammar τ β} {input : String} {state inner : State}

theorem Enters.forward (entered : Enters rules g state h inner)
    (reached : Reachable input state) : state.cursor ≤ inner.cursor := by
  have goes {γ : Type} {k : Grammar τ γ} {start : State} {reply : Reply γ}
      (reached : Reachable input start) (replies : k.Replies rules start reply) :
      start.cursor ≤ reply.2.cursor := (replies.proper reached.sound).forward
  cases entered with
  | literal =>
    have advanced : (Grammar.consumeOne : Grammar τ Unit).Replies rules state
        (.success (), state.advance) := ⟨0, rfl⟩
    exact goes reached advanced
  | bindNext first | seqRightNext first | seqLeftNext first | seqPairNext first | content first =>
    exact goes reached first
  | closing first second =>
    exact Nat.le_trans (goes reached first) (goes (reached.step first) second)
  | orElseNext first | choiceNext first => exact goes reached first
  | manyNext round | many1Next round | countNext _ round | sepByNext round | sepBy1Next round =>
    exact goes reached round
  | manyTill unended => exact goes reached unended
  | manyTillNext unended _ round =>
    exact Nat.le_trans (goes reached unended) (goes (reached.step unended) round)
  | sepEndBySeparator round | sepEndBy1Separator round => exact goes reached round
  | sepEndByNext round further | sepEndBy1Next round further =>
    exact Nat.le_trans (goes reached round) (goes (reached.step round) further)
  | _ => exact Nat.le_refl _

theorem Visits.forward (visits : Visits rules g state h inner) (reached : Reachable input state) :
    state.cursor ≤ inner.cursor := by
  induction visits with
  | here => exact Nat.le_refl _
  | inside entered _ ih =>
    exact Nat.le_trans (entered.forward reached) (ih (entered.reachable reached))

/-- What is behind a part that consumes is entered at a larger cursor. -/
theorem Founded.behind {after : State} {value : α}
    (founded : h.Founded rules names (moved ∨ g.Consumes rules)) (reached : Reachable input state)
    (replies : g.Replies rules state (.success value, after)) :
    h.Founded rules names (moved ∨ state.cursor < after.cursor) :=
  founded.mono (Or.imp_right fun consumes => consumes.advances reached replies)

/-- The parts of a founded tree are founded, where entering them moves the cursor even when nothing
was taken before. -/
theorem Enters.founded (entered : Enters rules g state h inner) (reached : Reachable input state)
    (known : rules.Founded names) (founded : g.Founded rules names moved) :
    h.Founded rules names (moved ∨ state.cursor < inner.cursor) := by
  cases entered with
  | literal => trivial
  | rule => exact (known _ founded.1).mono fun none => none.elim
  | bindNext first => exact (founded.2 _ ⟨_, _, _, reached, first⟩).behind reached first
  | seqRightNext first | seqLeftNext first | seqPairNext first =>
    exact founded.2.behind reached first
  | content first => exact founded.2.2.behind reached first
  | closing first second =>
    have later := (second.proper (reached.step first).sound).forward
    exact (founded.2.1.behind reached first).mono
      (Or.imp_right fun less => Nat.lt_of_lt_of_le less later)
  | bind | seqRight | seqLeft | seqPair | opening | orElse => exact founded.1.mono .inl
  | many | many1 | manyTill | sepBy | sepBy1 | sepEndBy | sepEndBy1 => exact founded.1.mono .inl
  | orElseNext => exact founded.2.mono .inl
  | terminator | sepEndBySeparator | sepEndBy1Separator => exact founded.2.1.mono .inl
  | choice => exact (founded 0).mono .inl
  | choiceNext => exact fun i => (founded i.succ).mono .inl
  | sepByNext | sepBy1Next =>
    exact ⟨⟨founded.2.1.mono .inl, founded.1.mono fun before => .inl (.inl before)⟩, founded.2.2⟩
  | endBy | endBy1 =>
    exact ⟨⟨founded.1.mono .inl, founded.2.1.mono fun before => .inl (.inl before)⟩, founded.2.2⟩
  | manyNext | many1Next | manyTillNext | sepEndByNext | sepEndBy1Next => exact founded.mono .inl
  | count room => exact founded.2.mono .inl
  | countNext room => exact ⟨room.mono (Nat.le_succ _), founded.2.mono .inl⟩
  | _ => exact Founded.mono founded .inl

theorem Visits.founded (visits : Visits rules g state h inner) (reached : Reachable input state)
    (known : rules.Founded names) (founded : g.Founded rules names moved) :
    h.Founded rules names (moved ∨ state.cursor < inner.cursor) := by
  induction visits generalizing moved with
  | here => exact founded.mono .inl
  | inside entered others ih =>
    have onward := entered.reachable reached
    have less := entered.forward reached
    have later := others.forward onward
    refine (ih onward (entered.founded reached known founded)).mono ?_
    -- The cursor has moved on the way when it has moved in either part of it.
    rintro ((before | first) | rest)
    · exact .inl before
    · exact .inr (Nat.lt_of_lt_of_le first later)
    · exact .inr (Nat.lt_of_le_of_lt less rest)

/-- Every round of a founded loop takes something. -/
theorem Repeats.advances {loop : Grammar τ (List α)} {start before after : State} {value : α}
    {step : State → α → State → Prop} (repeats : loop.Repeats rules inner start step)
    (founded : loop.Founded rules names moved) (reached : Reachable input before)
    (round : step before value after) : before.cursor < after.cursor := by
  cases repeats with
  | many | many1 => exact founded.2.advances reached round
  | manyTill =>
    obtain ⟨_, _, unended, clean, item⟩ := round
    exact clean ▸ founded.2.2.advances (reached.step unended) item
  | _ => exact founded.2.2.advances reached round

/-- The run from a state ends. Rules are entered behind where the tree or the rule around them was,
and every complete round of every loop on the way takes something. -/
structure Terminates (rules : Rules τ) (g : Grammar τ α) (state : State) : Prop where
  replies : ∃ reply, g.Replies rules state reply
  enters : ∀ {name inner}, g.Visits rules state (.rule name) inner → state.cursor < inner.cursor
  nested : ∀ {name name' inner further}, g.Visits rules state (.rule name) inner →
    (rules name).Visits rules inner (.rule name') further → inner.cursor < further.cursor
  rounds : ∀ {γ : Type} {loop : Grammar τ (List γ)} {inner start : State}
    {step : State → γ → State → Prop}, g.Visits rules state loop inner →
    loop.Repeats rules inner start step →
    ∀ {text : String} {before after : State} {value : γ}, Reachable text before →
      step before value after → before.cursor < after.cursor

theorem Founded.terminates (founded : g.Founded rules names False) (known : rules.Founded names)
    (reached : Reachable input state) : g.Terminates rules state where
  replies := by
    obtain ⟨front, text, splits⟩ := reached.sound.splits
    obtain ⟨reply, run⟩ := (founded.run_halts known (Nat.lt_succ_self text.length)).replies splits
      (Nat.le_refl _)
    exact ⟨reply, _, run⟩
  enters visits := (visits.founded reached known founded).2.resolve_left id
  nested {name _ inner _} visits further := by
    have named : names name := (visits.founded reached known founded).1
    exact (further.founded (visits.reachable reached) known (known name named)).2.resolve_left id
  rounds visits repeats _ _ _ _ within round :=
    repeats.advances (visits.founded reached known founded) within round

end CommittedChoice.Grammar
