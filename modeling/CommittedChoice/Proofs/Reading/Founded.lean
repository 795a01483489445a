import CommittedChoice.Proofs.Reading.Consumption

/-! Recursion that ends. A grammar is founded when every loop in it has a body that consumes, every
list that is counted has room and every rule is entered behind something that has been taken. A rule
inside a rule then has a shorter text before it, so that a run of founded rules comes to an end from
every state. -/
namespace CommittedChoice

variable {ι : Type} {τ : ι → Type} {α β : Type}

/-- The bodies of all loops consume, there is room for all lists that are counted, and rules, which
are among the named ones, are entered only where something has been taken: before the tree, when
`moved`, or in the tree in front of them. What is made from a value counts when the value may be
given. -/
def Grammar.Founded (rules : Rules τ) (names : ι → Prop) : {α : Type} → Grammar τ α → Prop → Prop
  | _, .pure _, _ | _, .fail _, _ | _, .readChar, _ | _, .consumeOne, _ => True
  | _, .satisfy _, _ | _, .literal _, _ => True
  | _, .rule name, moved => names name ∧ moved
  | _, .map _ g, moved => g.Founded rules names moved
  | _, .bind g next, moved =>
    g.Founded rules names moved ∧
      ∀ value, g.Gives rules value → (next value).Founded rules names (moved ∨ g.Consumes rules)
  | _, .seqRight first second, moved =>
    first.Founded rules names moved ∧ second.Founded rules names (moved ∨ first.Consumes rules)
  | _, .seqLeft first second, moved =>
    first.Founded rules names moved ∧ second.Founded rules names (moved ∨ first.Consumes rules)
  | _, .seqPair first second, moved =>
    first.Founded rules names moved ∧ second.Founded rules names (moved ∨ first.Consumes rules)
  | _, .between opening closing g, moved =>
    opening.Founded rules names moved ∧
      closing.Founded rules names (moved ∨ opening.Consumes rules) ∧
      g.Founded rules names (moved ∨ opening.Consumes rules)
  | _, .recognize g, moved => g.Founded rules names moved
  | _, .orElse first second, moved =>
    first.Founded rules names moved ∧ second.Founded rules names moved
  | _, .choice alternatives, moved => ∀ i, (alternatives i).Founded rules names moved
  | _, .attempt g, moved => g.Founded rules names moved
  | _, .lookAhead g, moved => g.Founded rules names moved
  | _, .notFollowedBy g, moved => g.Founded rules names moved
  | _, .label _ g, moved => g.Founded rules names moved
  | _, .option _ g, moved => g.Founded rules names moved
  | _, .optional g, moved => g.Founded rules names moved
  | _, .many g, moved => g.Founded rules names moved ∧ g.Consumes rules
  | _, .many1 g, moved => g.Founded rules names moved ∧ g.Consumes rules
  | _, .manyTill g terminator, moved =>
    g.Founded rules names moved ∧ terminator.Founded rules names moved ∧ g.Consumes rules
  | _, @count _ _ α _ times g, moved => Reservable α times ∧ g.Founded rules names moved
  | _, .sepBy item separator, moved =>
    item.Founded rules names moved ∧ separator.Founded rules names moved ∧
      (separator.seqRight item).Consumes rules
  | _, .sepBy1 item separator, moved =>
    item.Founded rules names moved ∧ separator.Founded rules names moved ∧
      (separator.seqRight item).Consumes rules
  | _, .endBy item separator, moved =>
    item.Founded rules names moved ∧ separator.Founded rules names moved ∧
      (item.seqLeft separator).Consumes rules
  | _, .endBy1 item separator, moved =>
    item.Founded rules names moved ∧ separator.Founded rules names moved ∧
      (item.seqLeft separator).Consumes rules
  | _, .sepEndBy item separator, moved =>
    item.Founded rules names moved ∧ separator.Founded rules names moved ∧
      (separator.seqRight item).Consumes rules
  | _, .sepEndBy1 item separator, moved =>
    item.Founded rules names moved ∧ separator.Founded rules names moved ∧
      (separator.seqRight item).Consumes rules
  | _, .later build, moved => (build ()).Founded rules names moved

variable {rules : Rules τ} {names : ι → Prop} {moved moved' consumes : Prop} {g : Grammar τ α}
  {limit depth bound fuel : Nat}

namespace Rules

/-- Every named rule takes something before it enters a rule. -/
def Founded (rules : Rules τ) (names : ι → Prop) : Prop :=
  ∀ name, names name → (rules name).Founded rules names False

/-- The bounds are enough for loops over texts of that many characters, and for the named rules:
on shorter texts, and on these as well when something has been taken before. -/
structure Ready (rules : Rules τ) (names : ι → Prop) (limit depth : Nat) (moved : Prop)
    (bound : Nat) : Prop where
  enough : bound < limit
  halts : ∀ name, names name → ∀ fewer ≤ bound, (fewer = bound → moved) →
    (rules.parser limit depth name).Halts fewer

/-- Behind a piece the rules have what is left before them; when the piece is empty, nothing has
been taken that was not taken before. -/
theorem Ready.behind {piece : List Char} (ready : rules.Ready names limit depth moved bound)
    (some : consumes → piece ≠ []) (short : piece.length ≤ bound) :
    rules.Ready names limit depth (moved ∨ consumes) (bound - piece.length) where
  enough := Nat.lt_of_le_of_lt (Nat.sub_le _ _) ready.enough
  halts name named fewer less last := by
    refine ready.halts name named fewer (Nat.le_trans less (Nat.sub_le _ _)) fun whole => ?_
    have none : piece = [] := List.length_eq_zero_iff.mp (by omega)
    exact (last (by simp [none, whole])).resolve_right fun known => some known none

/-- What follows a founded grammar in a sequence. -/
theorem Ready.halts_bind {k : α → Parser β} (ready : rules.Ready names limit depth moved bound)
    (first : (g.parser (rules.parser limit depth) limit).Halts bound)
    (here : ∀ value, (k value).Local)
    (next : ∀ {fewer} value, g.Gives rules value →
      rules.Ready names limit depth (moved ∨ g.Consumes rules) fewer → (k value).Halts fewer) :
    ((g.parser (rules.parser limit depth) limit).bind k).Halts bound :=
  first.followed (Grammar.yields_given rules g limit depth) (first.here.bind here)
    (fun value _ known short => next value known.1 (ready.behind known.2 short)) fun _ _ => ⟨_, rfl⟩

end Rules

namespace Grammar

theorem Founded.mono (founded : g.Founded rules names moved) (implies : moved → moved') :
    g.Founded rules names moved' := by
  induction g generalizing moved moved' with
  | pure | fail | readChar | consumeOne | satisfy | literal => trivial
  | rule => exact founded.imp_right implies
  | bind _ _ ih each =>
    exact ⟨ih founded.1 implies, fun value given => each value (founded.2 value given)
      (Or.imp_left implies)⟩
  | seqRight _ _ first second | seqLeft _ _ first second | seqPair _ _ first second =>
    exact ⟨first founded.1 implies, second founded.2 (Or.imp_left implies)⟩
  | between _ _ _ opening closing ih =>
    exact ⟨opening founded.1 implies, closing founded.2.1 (Or.imp_left implies),
      ih founded.2.2 (Or.imp_left implies)⟩
  | orElse _ _ first second => exact ⟨first founded.1 implies, second founded.2 implies⟩
  | choice _ each => exact fun i => each i (founded i) implies
  | many _ ih | many1 _ ih => exact ⟨ih founded.1 implies, founded.2⟩
  | manyTill _ _ item other | sepBy _ _ item other | sepBy1 _ _ item other
  | endBy _ _ item other | endBy1 _ _ item other | sepEndBy _ _ item other
  | sepEndBy1 _ _ item other =>
    exact ⟨item founded.1 implies, other founded.2.1 implies, founded.2.2⟩
  | later _ ih => exact ih () founded implies
  | map _ _ ih | recognize _ ih | attempt _ ih | lookAhead _ ih | notFollowedBy _ ih | label _ _ ih
  | option _ _ ih | optional _ ih => exact ih founded implies
  | count _ _ ih => exact ⟨founded.1, ih founded.2 implies⟩

/-- A list of alternatives is founded when each of them is. -/
theorem founded_choiceOf {alternatives : List (Grammar τ α)}
    (each : ∀ g ∈ alternatives, g.Founded rules names moved) :
    (choiceOf alternatives).Founded rules names moved :=
  fun i => each _ (alternatives.get_mem i)

theorem Founded.halts (founded : g.Founded rules names moved)
    (ready : rules.Ready names limit depth moved bound) :
    (g.parser (rules.parser limit depth) limit).Halts bound := by
  have here {γ : Type} (g : Grammar τ γ) : (g.parser (rules.parser limit depth) limit).Local :=
    g.parser_local (rules.parser_local limit depth) limit
  -- What follows in a sequence has a shorter text, or has nothing in front of it that it had not.
  induction g generalizing moved bound with
  | pure value => exact Parser.halts_of_replies (.pure value) fun _ => ⟨_, rfl⟩
  | fail expected => exact Parser.halts_of_replies (.fail expected) fun _ => ⟨_, rfl⟩
  | readChar => exact Parser.halts_readChar
  | consumeOne => exact Parser.halts_consumeOne
  | satisfy accepts => exact Parser.halts_satisfy accepts
  | literal text => exact Parser.halts_literal text
  | rule name => exact ready.halts name founded.1 bound (Nat.le_refl _) fun _ => founded.2
  | map f _ ih => exact (ih founded ready).map f
  | bind g next ih each =>
    -- Nothing is known of the continuations for values that no run gives.
    exact ready.halts_bind (ih founded.1 ready) (fun value => here (next value))
      fun value given ready' => each value (founded.2 value given) ready'
  | seqRight _ h first second =>
    exact ready.halts_bind (first founded.1 ready) (fun _ => here h)
      fun _ _ ready' => second founded.2 ready'
  | seqLeft _ h first second =>
    exact ready.halts_bind (first founded.1 ready) (fun value => (here h).map fun _ => value)
      fun value _ ready' => (second founded.2 ready').map fun _ => value
  | seqPair _ h first second =>
    exact ready.halts_bind (first founded.1 ready)
      (fun value => (here h).map fun other => (value, other))
      fun value _ ready' => (second founded.2 ready').map fun other => (value, other)
  | between _ c g opening closing ih =>
    exact ready.halts_bind (opening founded.1 ready) (fun _ => (here g).seqLeft (here c))
      fun _ _ ready' => (ih founded.2.2 ready').seqLeft (closing founded.2.1 ready')
  | recognize _ ih => exact (ih founded ready).recognize
  | orElse _ _ first second => exact (first founded.1 ready).orElse (second founded.2 ready)
  | choice _ each =>
    refine .choice fun parser member => ?_
    obtain ⟨i, rfl⟩ := List.mem_ofFn.mp member
    exact each i (founded i) ready
  | attempt _ ih => exact (ih founded ready).attempt
  | lookAhead _ ih => exact (ih founded ready).lookAhead
  | notFollowedBy _ ih => exact (ih founded ready).notFollowedBy
  | label text _ ih => exact (ih founded ready).label text
  | option default _ ih => exact (ih founded ready).option default
  | optional _ ih => exact (ih founded ready).optional
  | many _ ih => exact (ih founded.1 ready).many (founded.2.yields limit depth) ready.enough
  | many1 _ ih => exact (ih founded.1 ready).many1 (founded.2.yields limit depth) ready.enough
  | manyTill _ _ ih terminator =>
    exact (ih founded.1 ready).manyTill (terminator founded.2.1 ready)
      (founded.2.2.yields limit depth) ready.enough
  | count _ _ ih => exact (ih founded.2 ready).count founded.1
  | sepBy _ _ item separator =>
    exact (item founded.1 ready).sepBy (separator founded.2.1 ready)
      (founded.2.2.yields limit depth) ready.enough
  | sepBy1 _ _ item separator =>
    exact (item founded.1 ready).sepBy1 (separator founded.2.1 ready)
      (founded.2.2.yields limit depth) ready.enough
  | endBy _ _ item separator =>
    exact ((item founded.1 ready).seqLeft (separator founded.2.1 ready)).many
      (founded.2.2.yields limit depth) ready.enough
  | endBy1 _ _ item separator =>
    exact ((item founded.1 ready).seqLeft (separator founded.2.1 ready)).many1
      (founded.2.2.yields limit depth) ready.enough
  | sepEndBy _ _ item separator =>
    exact (item founded.1 ready).sepEndBy (separator founded.2.1 ready)
      (founded.2.2.yields limit depth) ready.enough
  | sepEndBy1 _ _ item separator =>
    exact (item founded.1 ready).sepEndBy1 (separator founded.2.1 ready)
      (founded.2.2.yields limit depth) ready.enough
  | later _ ih => exact ih () founded ready

end Grammar

/-- A rule may enter rules as often as the text has characters, since each takes one at least. -/
theorem Rules.Founded.ready (founded : rules.Founded names) (deep : bound ≤ depth)
    (enough : bound < limit) : rules.Ready names limit depth False bound := by
  induction depth generalizing bound with
  | zero => exact ⟨enough, fun _ _ fewer _ last => absurd (by omega) last⟩
  | succ depth ih =>
    refine ⟨enough, fun name named fewer less last => ?_⟩
    have shorter : fewer < bound := Nat.lt_of_le_of_ne less last
    exact (founded name named).halts (ih (by omega) (by omega))

/-- Fuel above the length of a text is enough for it. -/
theorem Grammar.Founded.run_halts (founded : g.Founded rules names False)
    (known : rules.Founded names) (ample : bound < fuel) : (g.run rules fuel).Halts bound :=
  founded.halts (known.ready (Nat.le_of_lt ample) ample)

theorem Grammar.Founded.parse_isSome (founded : g.Founded rules names False)
    (known : rules.Founded names) (count : Nat) (source : String) :
    ∃ result, g.parse rules (ampleFuel count source) source = some result := by
  have ample : source.toList.length < ampleFuel count source := by
    rw [String.length_toList, ampleFuel]
    exact Nat.lt_of_lt_of_le (by omega) (Nat.le_mul_of_pos_left _ (Nat.succ_pos _))
  obtain ⟨reply, run⟩ := (founded.run_halts known ample).replies (State.splits_start source)
    (Nat.le_refl _)
  exact ⟨resultOf reply, by rw [parse, run]; rfl⟩

end CommittedChoice
