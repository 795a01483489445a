import CommittedChoice.Grammar.Fuel
import CommittedChoice.Parser.Rounds

/-! Replies told without fuel. What holds of runs under a bound has a limit when it is kept by all
higher bounds; finitely many runs have the limits of each of them together, since the highest of
their bounds is enough for all. So a reply to a tree is told by the replies to its parts. -/
namespace CommittedChoice

variable {ι : Type} {τ : ι → Type} {α β : Type}

structure Limit (bounded : Nat → Prop) (whole : Prop) : Prop where
  sound : ∀ {fuel}, bounded fuel → whole
  reached : whole → ∃ fuel, ∀ more, fuel ≤ more → bounded more

namespace Limit

variable {bounded bounded' : Nat → Prop} {whole whole' : Prop}

theorem exists_iff (limit : Limit bounded whole) : (∃ fuel, bounded fuel) ↔ whole := by
  refine ⟨fun ⟨_, known⟩ => limit.sound known, fun known => ?_⟩
  obtain ⟨fuel, enough⟩ := limit.reached known
  exact ⟨fuel, enough fuel (Nat.le_refl fuel)⟩

theorem congr (limit : Limit bounded whole) (same : ∀ fuel, bounded' fuel ↔ bounded fuel) :
    Limit bounded' whole := by
  obtain rfl : bounded' = bounded := funext fun fuel => propext (same fuel)
  exact limit

theorem const (known : Prop) : Limit (fun _ => known) known :=
  ⟨id, fun known => ⟨0, fun _ _ => known⟩⟩

theorem and (first : Limit bounded whole) (second : Limit bounded' whole') :
    Limit (fun fuel => bounded fuel ∧ bounded' fuel) (whole ∧ whole') := by
  refine ⟨And.imp first.sound second.sound, ?_⟩
  rintro ⟨known, known'⟩
  obtain ⟨fuel, enough⟩ := first.reached known
  obtain ⟨fuel', enough'⟩ := second.reached known'
  exact ⟨max fuel fuel', fun more above =>
    ⟨enough more (Nat.le_trans (Nat.le_max_left _ _) above),
      enough' more (Nat.le_trans (Nat.le_max_right _ _) above)⟩⟩

theorem or (first : Limit bounded whole) (second : Limit bounded' whole') :
    Limit (fun fuel => bounded fuel ∨ bounded' fuel) (whole ∨ whole') := by
  refine ⟨Or.imp first.sound second.sound, ?_⟩
  rintro (known | known)
  · exact (first.reached known).imp fun _ enough more above => .inl (enough more above)
  · exact (second.reached known).imp fun _ enough more above => .inr (enough more above)

theorem exist {bounded : α → Nat → Prop} {whole : α → Prop}
    (each : ∀ a, Limit (bounded a) (whole a)) :
    Limit (fun fuel => ∃ a, bounded a fuel) (∃ a, whole a) := by
  refine ⟨Exists.imp fun a => (each a).sound, ?_⟩
  rintro ⟨a, known⟩
  exact ((each a).reached known).imp fun _ enough more above => ⟨a, enough more above⟩

theorem ite {condition : Prop} [Decidable condition] (first : Limit bounded whole)
    (second : Limit bounded' whole') :
    Limit (fun fuel => if condition then bounded fuel else bounded' fuel)
      (if condition then whole else whole') := by
  by_cases holds : condition
  · simpa only [if_pos holds] using first
  · simpa only [if_neg holds] using second

/-- A bound above a number holds from there on, and asks nothing of the limit. -/
theorem above (number : Nat) (limit : Limit bounded whole) :
    Limit (fun fuel => number < fuel ∧ bounded fuel) whole := by
  refine ⟨fun known => limit.sound known.2, fun known => ?_⟩
  obtain ⟨fuel, enough⟩ := limit.reached known
  exact ⟨max (number + 1) fuel, fun more above =>
    ⟨Nat.le_trans (Nat.le_max_left _ _) above,
      enough more (Nat.le_trans (Nat.le_max_right _ _) above)⟩⟩

theorem chain {bounded : Nat → State → α → State → Prop} {step : State → α → State → Prop}
    (each : ∀ state value after, Limit (fun fuel => bounded fuel state value after)
      (step state value after)) (state : State) (values : List α) (after : State) :
    Limit (fun fuel => Chain (bounded fuel) state values after)
      (Chain step state values after) := by
  refine ⟨fun known => known.mono fun _ _ _ => (each _ _ _).sound, fun known => ?_⟩
  induction known with
  | nil => exact ⟨0, fun _ _ => .nil⟩
  | cons first _ ih =>
    obtain ⟨fuel, enough⟩ := (each _ _ _).reached first
    obtain ⟨fuel', enough'⟩ := ih
    exact ⟨max fuel fuel', fun more above =>
      .cons (enough more (Nat.le_trans (Nat.le_max_left _ _) above))
        (enough' more (Nat.le_trans (Nat.le_max_right _ _) above))⟩

/-- A loop that may take so many rounds may in the limit take any number. -/
theorem loop {bounded : Nat → State → α → State → Prop} {step : State → α → State → Prop}
    {stops : Nat → State → List α → Prop} {stop : State → List α → Prop}
    (each : ∀ state value after, Limit (fun fuel => bounded fuel state value after)
      (step state value after))
    (ends : ∀ last values, Limit (fun fuel => stops fuel last values) (stop last values))
    (state : State) :
    Limit (fun fuel => ∃ values last, Chain (bounded fuel) state values last ∧
        values.length < fuel ∧ stops fuel last values)
      (∃ values last, Chain step state values last ∧ stop last values) :=
  .exist fun values => .exist fun last =>
    (chain each state values last).and ((ends last values).above values.length)

end Limit

namespace Grammar

variable {rules : Rules τ} {g item : Grammar τ α} {h separator : Grammar τ β}
  {next : α → Grammar τ β} {state : State} {reply : Reply α}

theorem limit_replies (g : Grammar τ α) (state : State) (reply : Reply α) :
    Limit (fun fuel => (g.run rules fuel).Runs state reply) (g.Replies rules state reply) where
  sound known := ⟨_, known⟩
  reached := fun ⟨fuel, run⟩ => ⟨fuel, fun _ enough => g.run_extends enough state reply run⟩

/-- What goes on from a run goes on from a success or from a failure of it. -/
theorem limit_turn (g : Grammar τ α) (state : State) {bounded : Nat → α → State → Prop}
    {bounded' : Nat → Expected → State → Prop} {whole : α → State → Prop}
    {whole' : Expected → State → Prop}
    (success : ∀ value after, Limit (fun fuel => bounded fuel value after) (whole value after))
    (failure : ∀ expected after,
      Limit (fun fuel => bounded' fuel expected after) (whole' expected after)) :
    Limit (fun fuel =>
      (∃ value after, g.run rules fuel state = some (.success value, after) ∧
        bounded fuel value after) ∨
      ∃ expected after, g.run rules fuel state = some (.failure expected, after) ∧
        bounded' fuel expected after)
      ((∃ value after, g.Replies rules state (.success value, after) ∧ whole value after) ∨
      ∃ expected after, g.Replies rules state (.failure expected, after) ∧
        whole' expected after) :=
  .or (.exist fun value => .exist fun after => (limit_replies g state _).and (success value after))
    (.exist fun expected => .exist fun after =>
      (limit_replies g state _).and (failure expected after))

theorem limit_chain (g : Grammar τ α) (state : State) (values : List α) (after : State) :
    Limit (fun fuel => Chain (Succeeds (g.run rules fuel).Runs) state values after)
      (Chain (Succeeds (g.Replies rules)) state values after) :=
  .chain (fun state value after => limit_replies g state (.success value, after)) state values after

/-- Whether a loop over attempts stops is told by its body. -/
theorem limit_exhausts (g : Grammar τ α) (last : State) (values : List β)
    (reply : Reply (List β)) :
    Limit (fun fuel => Exhausts (g.run rules fuel).Runs last values reply)
      (Exhausts (g.Replies rules) last values reply) :=
  .exist fun expected => .exist fun after =>
    (limit_replies g last (.failure expected, after)).and (.const _)

theorem limit_exhaustsAfter (item : Grammar τ α) (separator : Grammar τ β) (last : State)
    (values : List α) (reply : Reply (List α)) :
    Limit (fun fuel => ExhaustsAfter (item.run rules fuel).Runs (separator.run rules fuel).Runs
        last values reply)
      (ExhaustsAfter (item.Replies rules) (separator.Replies rules) last values reply) :=
  (limit_exhausts separator last values reply).or (.exist fun _ => .exist fun middle =>
    (limit_replies separator last _).and (limit_exhausts item middle values reply))

/-- The rounds of a grammar up to the one that stops the loop. -/
theorem limit_rounds (g : Grammar τ α) {stops : Nat → State → List α → Prop}
    {stop : State → List α → Prop}
    (ends : ∀ last values, Limit (fun fuel => stops fuel last values) (stop last values))
    (state : State) :
    Limit (fun fuel => ∃ values last, Chain (Succeeds (g.run rules fuel).Runs) state values last ∧
        values.length < fuel ∧ stops fuel last values)
      (∃ values last, Chain (Succeeds (g.Replies rules)) state values last ∧ stop last values) :=
  .loop (fun state value after => limit_replies g state (.success value, after)) ends state

/-- A tree replies with what the limit of its runs says. -/
theorem replies_iff {bounded : Nat → Prop} {whole : Prop}
    (runs : ∀ fuel, g.run rules fuel state = some reply ↔ bounded fuel)
    (limit : Limit bounded whole) : g.Replies rules state reply ↔ whole :=
  (limit.congr runs).exists_iff

theorem replies_bind {reply : Reply β} :
    (Grammar.bind g next).Replies rules state reply ↔
      (∃ value after, g.Replies rules state (.success value, after) ∧
        (next value).Replies rules after reply) ∨
      ∃ expected after, g.Replies rules state (.failure expected, after) ∧
        (.failure expected, after) = reply := by
  refine replies_iff (fun _ => Parser.bind_eq_some) ?_
  exact limit_turn g state (fun value after => limit_replies (next value) after reply)
    fun _ _ => .const _

theorem replies_map {f : α → β} {reply : Reply β} :
    (Grammar.map f g).Replies rules state reply ↔
      (∃ value after, g.Replies rules state (.success value, after) ∧
        (.success (f value), after) = reply) ∨
      ∃ expected after, g.Replies rules state (.failure expected, after) ∧
        (.failure expected, after) = reply := by
  refine replies_iff (fun _ => Parser.map_eq_some) ?_
  exact limit_turn g state (fun _ _ => .const _) fun _ _ => .const _

theorem replies_recognize {reply : Reply String} :
    (Grammar.recognize g).Replies rules state reply ↔
      (∃ value after, g.Replies rules state (.success value, after) ∧
        (.success ((state.between? after).getD ""), after) = reply) ∨
      ∃ expected after, g.Replies rules state (.failure expected, after) ∧
        (.failure expected, after) = reply := by
  refine replies_iff (fun _ => Parser.recognize_eq_some) ?_
  exact limit_turn g state (fun _ _ => .const _) fun _ _ => .const _

theorem replies_orElse {g' : Grammar τ α} :
    (Grammar.orElse g g').Replies rules state reply ↔
      (∃ value after, g.Replies rules state (.success value, after) ∧
        (.success value, after) = reply) ∨
      ∃ expected middle, g.Replies rules state (.failure expected, middle) ∧
        if middle.cursor = state.cursor then
          (∃ value after, g'.Replies rules middle (.success value, after) ∧
            (.success value, after) = reply) ∨
          ∃ expected' after, g'.Replies rules middle (.failure expected', after) ∧
            (.failure (if after.cursor = state.cursor then expected.merge expected'
              else expected'), after) = reply
        else (.failure expected, middle) = reply := by
  refine replies_iff (fun _ => Parser.orElse_eq_some) ?_
  refine limit_turn g state (fun _ _ => .const _) fun expected middle => .ite ?_ (.const _)
  exact limit_turn g' middle (fun _ _ => .const _) fun _ _ => .const _

theorem replies_attempt :
    (Grammar.attempt g).Replies rules state reply ↔
      (∃ value after, g.Replies rules state (.success value, after) ∧
        (.success value, after) = reply) ∨
      ∃ expected after, g.Replies rules state (.failure expected, after) ∧
        (.failure expected, after.rewind state.cursor) = reply := by
  refine replies_iff (fun _ => Parser.attempt_eq_some) ?_
  exact limit_turn g state (fun _ _ => .const _) fun _ _ => .const _

theorem replies_lookAhead :
    (Grammar.lookAhead g).Replies rules state reply ↔
      (∃ value after, g.Replies rules state (.success value, after) ∧
        (.success value, after.rewind state.cursor) = reply) ∨
      ∃ expected after, g.Replies rules state (.failure expected, after) ∧
        (.failure expected, after) = reply := by
  refine replies_iff (fun _ => Parser.lookAhead_eq_some) ?_
  exact limit_turn g state (fun _ _ => .const _) fun _ _ => .const _

theorem replies_notFollowedBy {reply : Reply Unit} :
    (Grammar.notFollowedBy g).Replies rules state reply ↔
      (∃ value after, g.Replies rules state (.success value, after) ∧
        (.failure .nothing, after.rewind state.cursor) = reply) ∨
      ∃ expected after, g.Replies rules state (.failure expected, after) ∧
        (.success (), after.rewind state.cursor) = reply := by
  refine replies_iff (fun _ => Parser.notFollowedBy_eq_some) ?_
  exact limit_turn g state (fun _ _ => .const _) fun _ _ => .const _

theorem replies_seqRight {reply : Reply β} :
    (g.seqRight h).Replies rules state reply ↔
      (Grammar.bind g fun _ => h).Replies rules state reply := Iff.rfl

theorem replies_seqLeft :
    (g.seqLeft h).Replies rules state reply ↔
      (Grammar.bind g fun value => h.map fun _ => value).Replies rules state reply := Iff.rfl

theorem replies_endBy {reply : Reply (List α)} :
    (Grammar.endBy item separator).Replies rules state reply ↔
      (Grammar.many (item.seqLeft separator)).Replies rules state reply := Iff.rfl

theorem replies_endBy1 {reply : Reply (List α)} :
    (Grammar.endBy1 item separator).Replies rules state reply ↔
      (Grammar.many1 (item.seqLeft separator)).Replies rules state reply := Iff.rfl

theorem limit_chooses (start : Nat) (alternatives : List (Grammar τ α)) (expected : Expected)
    (state : State) (reply : Reply α) :
    Limit (fun fuel => Parser.Chooses (fun g => (g.run rules fuel).Runs) start alternatives expected
        state reply)
      (Parser.Chooses (Replies rules) start alternatives expected state reply) := by
  induction alternatives generalizing expected state with
  | nil => exact .const _
  | cons g others ih =>
    exact limit_turn g state (fun _ _ => .const _) fun expected' after =>
      .ite (ih (expected.merge expected') after) (.const _)

theorem replies_choiceOf {alternatives : List (Grammar τ α)} :
    (choiceOf alternatives).Replies rules state reply ↔
      Parser.Chooses (Replies rules) state.cursor alternatives .nothing state reply := by
  refine replies_iff (fun fuel => ?_) (limit_chooses state.cursor alternatives .nothing state reply)
  rw [run, parser_choiceOf]
  exact Parser.choiceFrom_eq_some

theorem replies_many {reply : Reply (List α)} :
    (Grammar.many g).Replies rules state reply ↔
      ∃ values last, Chain (Succeeds (g.Replies rules)) state values last ∧
        Exhausts (g.Replies rules) last values reply := by
  refine replies_iff (fun _ => Parser.gather_eq_some) ?_
  exact limit_rounds g (fun last values => limit_exhausts g last values reply) state

theorem replies_many1 {reply : Reply (List α)} :
    (Grammar.many1 g).Replies rules state reply ↔
      (∃ value after, g.Replies rules state (.success value, after) ∧
        ∃ values last, Chain (Succeeds (g.Replies rules)) after values last ∧
          Exhausts (g.Replies rules) last (value :: values) reply) ∨
      ∃ expected after, g.Replies rules state (.failure expected, after) ∧
        (.failure expected, after.rewind state.cursor) = reply := by
  refine replies_iff (fun _ => Parser.many1_eq_some) ?_
  refine limit_turn g state (fun value after => ?_) fun _ _ => .const _
  exact limit_rounds g (fun last values => limit_exhausts g last (value :: values) reply) after

section Count

variable [Stored α] {times : Nat}

/-- A count that replies has had room for its list. -/
theorem Replies.room {reply : Reply (List α)}
    (replies : (Grammar.count times g).Replies rules state reply) : Reservable α times := by
  obtain ⟨_, run⟩ := replies
  exact (Parser.count_eq_some.mp run).1

/-- As many runs as have succeeded are counted. -/
theorem replies_count {values : List α} {after : State} (room : Reservable α values.length)
    (chain : Chain (Succeeds (g.Replies rules)) state values after) :
    (Grammar.count values.length g).Replies rules state (.success values, after) := by
  obtain ⟨fuel, known⟩ := (limit_chain g state values after).exists_iff.mpr chain
  refine ⟨fuel, Parser.count_eq_some.mpr ⟨room, (Parser.countFrom_of_chain 0 known).trans ?_⟩⟩
  rw [List.append_nil, Parser.countFrom, List.reverse_reverse]

/-- A count that asks for more ends with the run that has failed. -/
theorem replies_count_of_failure {values : List α} {last after : State} {expected : Expected}
    (room : Reservable α times) (chain : Chain (Succeeds (g.Replies rules)) state values last)
    (failed : g.Replies rules last (.failure expected, after)) (more : values.length < times) :
    (Grammar.count times g).Replies rules state (.failure expected, after) := by
  obtain ⟨times, rfl⟩ := Nat.exists_eq_add_of_lt more
  obtain ⟨fuel, known, run⟩ := ((limit_chain g state values last).and
    (limit_replies g last (.failure expected, after))).exists_iff.mpr ⟨chain, failed⟩
  refine ⟨fuel, Parser.count_eq_some.mpr
    ⟨room, (Parser.countFrom_of_chain (times + 1) known).trans ?_⟩⟩
  have run : g.run rules fuel last = some (.failure expected, after) := run
  simp [Parser.countFrom, run]

end Count

theorem replies_manyTill {terminator : Grammar τ β} {reply : Reply (List α)} :
    (Grammar.manyTill item terminator).Replies rules state reply ↔
      ∃ values last,
        Chain (Passes (item.Replies rules) (terminator.Replies rules)) state values last ∧
        StopsAt (item.Replies rules) (terminator.Replies rules) last values reply := by
  refine replies_iff (fun _ => Parser.gatherTill_eq_some) ?_
  refine .loop (fun state value after => ?_) (fun last values => ?_) state
  · exact .exist fun expected => .exist fun middle =>
      (limit_replies terminator state (.failure expected, middle)).and
        ((Limit.const _).and (limit_replies item middle (.success value, after)))
  · refine limit_turn terminator last (fun _ _ => .const _) fun expected middle => ?_
    refine .ite (.exist fun expected' => .exist fun after => ?_) (.const _)
    exact (limit_replies item middle (.failure expected', after)).and (.const _)

theorem replies_sepBy {reply : Reply (List α)} :
    (Grammar.sepBy item separator).Replies rules state reply ↔
      (∃ value after, item.Replies rules state (.success value, after) ∧
        ∃ values last,
          Chain (Succeeds ((separator.seqRight item).Replies rules)) after values last ∧
          Exhausts ((separator.seqRight item).Replies rules) last (value :: values) reply) ∨
      ∃ expected after, item.Replies rules state (.failure expected, after) ∧
        (.success [], after.rewind state.cursor) = reply := by
  refine replies_iff (fun _ => Parser.sepBy_eq_some) ?_
  refine limit_turn item state (fun value after => ?_) fun _ _ => .const _
  exact limit_rounds (separator.seqRight item)
    (fun last values => limit_exhausts (separator.seqRight item) last (value :: values) reply) after

theorem replies_sepBy1 {reply : Reply (List α)} :
    (Grammar.sepBy1 item separator).Replies rules state reply ↔
      (∃ value after, item.Replies rules state (.success value, after) ∧
        ∃ values last,
          Chain (Succeeds ((separator.seqRight item).Replies rules)) after values last ∧
          Exhausts ((separator.seqRight item).Replies rules) last (value :: values) reply) ∨
      ∃ expected after, item.Replies rules state (.failure expected, after) ∧
        (.failure expected, after.rewind state.cursor) = reply := by
  refine replies_iff (fun _ => Parser.sepBy1_eq_some) ?_
  refine limit_turn item state (fun value after => ?_) fun _ _ => .const _
  exact limit_rounds (separator.seqRight item)
    (fun last values => limit_exhausts (separator.seqRight item) last (value :: values) reply) after

theorem replies_sepEndBy {reply : Reply (List α)} :
    (Grammar.sepEndBy item separator).Replies rules state reply ↔
      (∃ value after, item.Replies rules state (.success value, after) ∧
        ∃ values last,
          Chain (Succeeds ((separator.seqRight item).Replies rules)) after values last ∧
          ExhaustsAfter (item.Replies rules) (separator.Replies rules) last (value :: values)
            reply) ∨
      ∃ expected after, item.Replies rules state (.failure expected, after) ∧
        (.success [], after.rewind state.cursor) = reply := by
  refine replies_iff (fun _ => Parser.sepEndBy_eq_some) ?_
  refine limit_turn item state (fun value after => ?_) fun _ _ => .const _
  exact limit_rounds (separator.seqRight item)
    (fun last values => limit_exhaustsAfter item separator last (value :: values) reply) after

theorem replies_sepEndBy1 {reply : Reply (List α)} :
    (Grammar.sepEndBy1 item separator).Replies rules state reply ↔
      (∃ value after, item.Replies rules state (.success value, after) ∧
        ∃ values last,
          Chain (Succeeds ((separator.seqRight item).Replies rules)) after values last ∧
          ExhaustsAfter (item.Replies rules) (separator.Replies rules) last (value :: values)
            reply) ∨
      ∃ expected after, item.Replies rules state (.failure expected, after) ∧
        (.failure expected, after.rewind state.cursor) = reply := by
  refine replies_iff (fun _ => Parser.sepEndBy1_eq_some) ?_
  refine limit_turn item state (fun value after => ?_) fun _ _ => .const _
  exact limit_rounds (separator.seqRight item)
    (fun last values => limit_exhaustsAfter item separator last (value :: values) reply) after

end Grammar

end CommittedChoice
