import CommittedChoice.Proofs.Matching.GivesBack
import CommittedChoice.Proofs.Matching.Matcher

/-! A parser follows an expression when from every place in a source the two end together, and
either both match, with the same value and the same rest, or neither does. Where a failed run may
have consumed and another is to start in its place, the first has to give back what it took. -/
namespace CommittedChoice

variable {α β γ : Type} {state after : State} {front text piece left : List Char}

/-- A reply tells the match of an expression over the same text. A failure tells no match, wherever
it has left the cursor. -/
inductive Tells (state : State) (front text : List Char) : Reply α → Match α → Prop where
  | success {value : α} {after : State} {piece left : List Char} (split : text = piece ++ left)
      (splits : after.Splits (front ++ piece) left) :
      Tells state front text (.success value, after) (some (value, left))
  | failure {expected : Expected} {after : State} (source : after.source = state.source) :
      Tells state front text (.failure expected, after) none

section Related

variable {r r' : α → β → Prop} {ended : Option α} {found : Option β}

theorem rel_mono (related : Option.Rel r ended found) (each : ∀ a b, r a b → r' a b) :
    Option.Rel r' ended found := by
  cases related with
  | none => exact .none
  | some known => exact .some (each _ _ known)

theorem exists_of_rel_some {a : α} (related : Option.Rel r (some a) found) :
    ∃ b, found = some b ∧ r a b := by
  cases related with
  | some known => exact ⟨_, rfl, known⟩

theorem exists_of_rel_of_some {b : β} (related : Option.Rel r ended (some b)) :
    ∃ a, ended = some a ∧ r a b := by
  cases related with
  | some known => exact ⟨_, rfl, known⟩

end Related

namespace Tells

theorem here {value : α} (splits : after.Splits front text) :
    Tells state front text (.success value, after) (some (value, text)) :=
  .success (List.nil_append text).symm (by simpa using splits)

/-- A success that is passed on. -/
theorem kept {value : α} (split : text = piece ++ left)
    (splits : after.Splits (front ++ piece) left) :
    Option.Rel (Tells state front text) (some (.success value, after))
      (some (some (value, left))) :=
  .some (.success split splits)

/-- What a run tells from where another has come to, it tells from the start of that one. -/
theorem further {reply : Reply α} {found : Match α} (splits : state.Splits front text)
    (split : text = piece ++ left) (splits' : after.Splits (front ++ piece) left)
    (tells : Tells after (front ++ piece) left reply found) :
    Tells state front text reply found := by
  cases tells with
  | @success value last more rest split' last_splits =>
    have whole : text = (piece ++ more) ++ rest := by rw [split, split', List.append_assoc]
    exact .success whole (by rwa [List.append_assoc] at last_splits)
  | failure source => exact .failure (source.trans ((split ▸ splits).source_eq splits'))

/-- Computations that tell the same go on to tell the same, from a match and from no match. -/
theorem step {R : Reply β → Match β → Prop} {ended : Option (Reply α)}
    {found : Option (Match α)} {f : Reply α → Option (Reply β)} {g : Match α → Option (Match β)}
    (first : Option.Rel (Tells state front text) ended found)
    (success : ∀ value after piece left, text = piece ++ left →
      after.Splits (front ++ piece) left →
      Option.Rel R (f (.success value, after)) (g (some (value, left))))
    (failure : ∀ expected after, ended = some (.failure expected, after) →
      after.source = state.source → Option.Rel R (f (.failure expected, after)) (g none)) :
    Option.Rel R (ended >>= f) (found >>= g) := by
  cases first with
  | none => exact .none
  | some tells =>
    cases tells with
    | success split splits => exact success _ _ _ _ split splits
    | failure source => exact failure _ _ rfl source

end Tells

namespace Parser

def Follows (p : Parser α) (matcher : Matcher α) : Prop :=
  ∀ ⦃state front text⦄, State.Splits state front text →
    Option.Rel (Tells state front text) (p state) (matcher text)

/-- A parser for its effect alone, with a default that has no effect. -/
theorem optional_eq_option (p : Parser α) : p.optional = (p.map fun _ => ()).option () := by
  funext state
  rcases run : p state with _ | ⟨expected | value, after⟩ <;>
    simp [optional, option, map, run]

namespace Follows

variable {p : Parser α} {q : Parser β} {m : Matcher α} {m' : Matcher β}

theorem pure (value : α) : (pure value).Follows (.pure value) := fun _ _ _ splits =>
  .some (.here splits)

theorem fail (expected : Expected) : (fail expected : Parser α).Follows .reject := fun _ _ _ _ =>
  .some (.failure rfl)

theorem readChar : readChar.Follows .readChar := by
  intro state front text splits
  cases text with
  | nil => simpa [Parser.readChar, Matcher.readChar, splits.peek] using Tells.failure rfl
  | cons char text =>
    simpa [Parser.readChar, Matcher.readChar, splits.peek] using Tells.here splits

theorem advance {value : α} {char : Char} (splits : state.Splits front (char :: text)) :
    Tells state front (char :: text) (.success value, state.advance) (some (value, text)) :=
  .success (List.singleton_append).symm splits.advance

theorem consumeOne : consumeOne.Follows .consumeOne := by
  intro state front text splits
  cases text with
  | nil => exact .some (.here splits.advance_end)
  | cons char text => exact .some (advance splits)

theorem satisfy (accepts : Char → Bool) : (satisfy accepts).Follows (.satisfy accepts) := by
  intro state front text splits
  cases text with
  | nil => simpa [Parser.satisfy, Matcher.satisfy, splits.peek] using Tells.failure rfl
  | cons char text =>
    by_cases accepted : accepts char
    · simpa [Parser.satisfy, Matcher.satisfy, splits.peek, accepted] using
        advance splits
    · simpa [Parser.satisfy, Matcher.satisfy, splits.peek, accepted] using Tells.failure rfl

/-- Characters are matched as far as they stand before the text. -/
theorem matchChars (chars : List Char) (splits : state.Splits front text) :
    ∃ after, Parser.matchChars chars state = (decide (chars <+: text), after) ∧
      after.source = state.source ∧
      (chars <+: text → after.Splits (front ++ chars) (text.drop chars.length)) := by
  induction chars generalizing state front text with
  | nil => exact ⟨state, by simp [Parser.matchChars], rfl, fun _ => by simpa using splits⟩
  | cons char chars ih =>
    cases text with
    | nil => exact ⟨state, by simp [Parser.matchChars, splits.peek], rfl, by simp⟩
    | cons head text =>
      by_cases same : head = char
      · subst same
        obtain ⟨after, run, source, known⟩ := ih splits.advance
        refine ⟨after, ?_, source, fun whole => ?_⟩
        · simp [Parser.matchChars, splits.peek, run, List.cons_prefix_cons]
        · simpa using known (List.cons_prefix_cons.mp whole).2
      · refine ⟨state, ?_, rfl, fun whole => ?_⟩
        · simp [Parser.matchChars, splits.peek, same, List.cons_prefix_cons, Ne.symm same]
        · exact absurd (List.cons_prefix_cons.mp whole).1.symm same

theorem literal (spelled : String) : (literal spelled).Follows (.literal spelled) := by
  intro state front text splits
  obtain ⟨after, run, source, known⟩ := matchChars spelled.toList splits
  by_cases whole : spelled.toList <+: text
  · obtain ⟨left, rfl⟩ := whole
    simpa [Parser.literal, Matcher.literal, run] using
      Tells.success rfl (by simpa using known (List.prefix_append _ _))
  · simpa [Parser.literal, Matcher.literal, run, whole] using Tells.failure source

/-- A parser that starts where another has come to. -/
theorem from_start (known : p.Follows m) (splits : state.Splits front text)
    (split : text = piece ++ left) (splits' : after.Splits (front ++ piece) left) :
    Option.Rel (Tells state front text) (p after) (m left) :=
  rel_mono (known splits') fun _ _ tells => tells.further splits split splits'

/-- A parser that starts where another has failed and given back what it took. -/
theorem from_unmoved (known : p.Follows m) (splits : state.Splits front text)
    (source : after.source = state.source) (clean : after.cursor = state.cursor) :
    Option.Rel (Tells state front text) (p after) (m text) :=
  known.from_start splits (List.nil_append text).symm
    (by simpa using splits.unmoved source clean)

theorem bind {k : α → Parser β} {next : α → Matcher β} (first : p.Follows m)
    (each : ∀ value, (k value).Follows (next value)) : (p.bind k).Follows (m.bind next) := by
  intro state front text splits
  refine Tells.step (first splits) (fun value after piece left split splits' => ?_)
    fun _ _ _ source => .some (.failure source)
  exact (each value).from_start splits split splits'

theorem map (f : α → β) (first : p.Follows m) : (p.map f).Follows (m.map f) :=
  first.bind fun value => pure (f value)

theorem seqRight (first : p.Follows m) (second : q.Follows m') :
    (p.seqRight q).Follows (m.seqRight m') :=
  first.bind fun _ => second

theorem seqLeft (first : p.Follows m) (second : q.Follows m') :
    (p.seqLeft q).Follows (m.seqLeft m') :=
  first.bind fun value => second.map fun _ => value

theorem seqPair (first : p.Follows m) (second : q.Follows m') :
    (p.seqPair q).Follows (m.seqPair m') :=
  first.bind fun value => second.map fun other => (value, other)

/-- The slice between the two cursors is the text that was matched. -/
theorem recognize (first : p.Follows m) : p.recognize.Follows m.recognize := by
  intro state front text splits
  refine Tells.step (first splits) (fun value after piece left split splits' => ?_)
    fun _ _ _ source => .some (.failure source)
  subst split
  have slice : state.between? after = some (String.ofList piece) := splits.between? splits'
  simpa [slice] using Tells.success rfl splits'

theorem lookAhead (first : p.Follows m) : p.lookAhead.Follows m.lookAhead := by
  intro state front text splits
  refine Tells.step (first splits) (fun value after piece left split splits' => ?_)
    fun _ _ _ source => .some (.failure source)
  exact .some (.here (splits.rewind ((split ▸ splits).source_eq splits')))

theorem notFollowedBy (first : p.Follows m) : p.notFollowedBy.Follows m.notFollowedBy := by
  intro state front text splits
  refine Tells.step (first splits) (fun value after piece left split splits' => ?_)
    fun _ _ _ source => .some (.here (splits.rewind source))
  have source : after.source = state.source := (split ▸ splits).source_eq splits'
  exact .some (.failure source)

/-- Giving back, like labelling, changes nothing that is told. -/
theorem attempt (first : p.Follows m) : p.attempt.Follows m := by
  intro state front text splits
  rw [← Option.bind_fun_some (m text)]
  exact Tells.step (first splits) (fun _ _ _ _ => Tells.kept)
    fun _ _ _ source => .some (.failure source)

theorem label (name : String) (first : p.Follows m) : (p.label name).Follows m := by
  intro state front text splits
  rw [← Option.bind_fun_some (m text)]
  refine Tells.step (first splits) (fun _ _ _ _ => Tells.kept)
    fun _ _ _ source => ?_
  dsimp only
  split <;> exact .some (.failure source)

theorem orElse {q : Parser α} {m' : Matcher α} (gives : p.GivesBack) (first : p.Follows m)
    (second : q.Follows m') : (p.orElse q).Follows (m.orElse m') := by
  intro state front text splits
  refine Tells.step (first splits) (fun _ _ _ _ => Tells.kept)
    fun expected middle run source => ?_
  have clean : middle.cursor = state.cursor := gives state expected middle run
  rw [← Option.bind_fun_some (m' text)]
  simp only [clean, if_true]
  refine Tells.step (second.from_unmoved splits source clean)
    (fun _ _ _ _ => Tells.kept) fun _ _ _ source' => ?_
  dsimp only
  split <;> exact .some (.failure source')

/-- All alternatives but the last have to give back what they took. -/
theorem choiceFrom {n : Nat} {ps : Fin n → Parser α} {ms : Fin n → Matcher α}
    (gives : ∀ i : Fin n, i.val + 1 < n → (ps i).GivesBack)
    (each : ∀ i, (ps i).Follows (ms i)) (expected : Expected)
    (splits : state.Splits front text) :
    Option.Rel (Tells state front text) (choiceFrom state.cursor (List.ofFn ps) expected state)
      (Matcher.choice (List.ofFn ms) text) := by
  suffices tried : ∀ middle expected, middle.source = state.source →
      middle.cursor = state.cursor → Option.Rel (Tells state front text)
        (Parser.choiceFrom state.cursor (List.ofFn ps) expected middle)
        (Matcher.choice (List.ofFn ms) text) from tried state expected rfl rfl
  induction n with
  | zero => exact fun _ _ source _ => .some (.failure source)
  | succ n others =>
    intro middle expected source clean
    rw [List.ofFn_succ, List.ofFn_succ]
    refine Tells.step ((each 0).from_unmoved splits source clean)
      (fun _ _ _ _ => Tells.kept)
      fun expected' after run source' => ?_
    dsimp only
    split
    next clean' =>
      exact others (fun i last => gives i.succ (by simpa using last)) (fun i => each i.succ)
        after _ source' clean'
    next moved =>
      -- Only the last alternative may have moved the cursor, and then none is left.
      cases n with
      | zero => exact .some (.failure source')
      | succ n => exact absurd ((gives 0 (by simp) middle _ _ run).trans clean) moved

theorem choice {n : Nat} {ps : Fin n → Parser α} {ms : Fin n → Matcher α}
    (gives : ∀ i : Fin n, i.val + 1 < n → (ps i).GivesBack)
    (each : ∀ i, (ps i).Follows (ms i)) :
    (choice (List.ofFn ps)).Follows (.choice (List.ofFn ms)) :=
  fun _ _ _ splits => choiceFrom gives each .nothing splits

theorem option (default : α) (gives : p.GivesBack) (first : p.Follows m) :
    (p.option default).Follows (m.option default) := by
  intro state front text splits
  refine Tells.step (first splits) (fun _ _ _ _ => Tells.kept)
    fun expected middle run source => ?_
  have clean : middle.cursor = state.cursor := gives state expected middle run
  simp only [clean, if_true]
  exact .some (.here (splits.unmoved source clean))

theorem optional (gives : p.GivesBack) (first : p.Follows m) : p.optional.Follows m.optional := by
  rw [optional_eq_option]
  exact (first.map _).option () (gives.map _)

/-- An attempt, what comes after it where it succeeds, and a default where it does not. -/
theorem attempted {k : α → Parser β} {next : α → Matcher β} (default : β) (first : p.Follows m)
    (each : ∀ value, (k value).Follows (next value)) (sure : ∀ value, (next value).Sure) :
    Follows (fun state => do
      match ← p.attempt state with
      | (.success value, after) => k value after
      | (.failure _, after) => some (.success default, after))
      ((m.bind next).option default) := by
  intro state front text splits
  rw [Matcher.option_bind default sure]
  refine Tells.step (first.attempt splits) (fun value after piece left split splits' => ?_)
    fun expected middle run source => ?_
  · exact (each value).from_start splits split splits'
  · have clean : middle.cursor = state.cursor := GivesBack.attempt p state expected middle run
    exact .some (.here (splits.unmoved source clean))

/-- A loop that has taken values puts them before what the expression still finds. -/
theorem gather (first : p.Follows m) (limit : Nat) (taken : List α) :
    (gather p limit taken).Follows ((m.many limit).map (taken.reverse ++ ·)) := by
  induction limit generalizing taken with
  | zero => exact fun _ _ _ _ => .none
  | succ limit rounds =>
    rw [Matcher.many, Matcher.map_option, Matcher.map_cons, List.append_nil]
    exact first.attempted taken.reverse (fun value => rounds (value :: taken))
      fun value => (Matcher.sure_many m limit).map _

theorem many (first : p.Follows m) (limit : Nat) : (many limit p).Follows (m.many limit) := by
  rw [← (m.many limit).map_id]
  exact first.gather limit []

theorem many1 (first : p.Follows m) (limit : Nat) : (many1 limit p).Follows (m.many1 limit) :=
  first.attempt.bind fun value => first.gather limit [value]

theorem gatherTill (first : p.Follows m) (gives : q.GivesBack) (terminator : q.Follows m')
    (limit : Nat) (taken : List α) :
    (gatherTill p q limit taken).Follows ((m.manyTill m' limit).map (taken.reverse ++ ·)) := by
  induction limit generalizing taken with
  | zero => exact fun _ _ _ _ => .none
  | succ limit rounds =>
    intro state front text splits
    rw [Matcher.manyTill, Matcher.map_orElse, Matcher.map_cons, Matcher.map_map, List.append_nil,
      Matcher.orElse_map]
    refine Tells.step (terminator splits)
      (fun _ _ _ _ => Tells.kept)
      fun expected middle run source => ?_
    have clean : middle.cursor = state.cursor := gives state expected middle run
    simp only [clean, if_true]
    refine Tells.step (first.from_unmoved splits source clean)
      (fun value after piece left split splits' => ?_) fun _ _ _ source' => ?_
    · exact (rounds (value :: taken)).from_start splits split splits'
    · dsimp only
      split <;> exact .some (.failure source')

theorem manyTill (first : p.Follows m) (gives : q.GivesBack) (terminator : q.Follows m')
    (limit : Nat) : (manyTill limit p q).Follows (m.manyTill m' limit) := by
  rw [← (m.manyTill m' limit).map_id]
  exact first.gatherTill gives terminator limit []

theorem countFrom (first : p.Follows m) (times : Nat) (taken : List α) :
    (countFrom p times taken).Follows ((m.replicate times).map (taken.reverse ++ ·)) := by
  induction times generalizing taken with
  | zero =>
    show (Parser.pure taken.reverse).Follows (.pure (taken.reverse ++ []))
    rw [List.append_nil]
    exact pure taken.reverse
  | succ times rounds =>
    rw [Matcher.replicate, Matcher.map_cons]
    exact first.bind fun value => rounds (value :: taken)

theorem count [Stored α] (first : p.Follows m) (times : Nat) :
    (count times p).Follows (m.count times) := by
  unfold Parser.count Matcher.count
  split
  · rw [← (m.replicate times).map_id]
    exact first.countFrom times []
  · exact fun _ _ _ _ => .none

theorem gatherSeparated (item : p.Follows m) (separator : q.Follows m') (limit : Nat)
    (taken : List α) : (gatherSeparated p q limit taken).Follows
      (((m'.seqRight m).many limit).map (taken.reverse ++ ·)) := by
  rw [gatherSeparated_eq]
  exact (separator.seqRight item).gather limit taken

theorem sepBy1 (item : p.Follows m) (separator : q.Follows m') (limit : Nat) :
    (sepBy1 limit p q).Follows (.sepBy1 limit m m') :=
  item.attempt.bind fun value => item.gatherSeparated separator limit [value]

theorem sepBy (item : p.Follows m) (separator : q.Follows m') (limit : Nat) :
    (sepBy limit p q).Follows (.sepBy limit m m') :=
  item.attempted [] (fun value => item.gatherSeparated separator limit [value])
    fun _ => (Matcher.sure_many _ limit).map _

theorem gatherSepEnd (item : p.Follows m) (separator : q.Follows m') (limit : Nat)
    (taken : List α) :
    (gatherSepEnd p q limit taken).Follows ((m.sepEnd m' limit).map (taken.reverse ++ ·)) := by
  induction limit generalizing taken with
  | zero => exact fun _ _ _ _ => .none
  | succ limit rounds =>
    rw [Matcher.sepEnd, Matcher.map_option, Matcher.seqRight, Matcher.map_bind,
      Matcher.map_option, Matcher.map_cons, List.append_nil]
    refine separator.attempted taken.reverse (fun _ => ?_) fun _ => Matcher.sure_option _ _
    exact item.attempted taken.reverse (fun value => rounds (value :: taken))
      fun value => (Matcher.sure_sepEnd m m' limit).map _

theorem sepEndBy1 (item : p.Follows m) (separator : q.Follows m') (limit : Nat) :
    (sepEndBy1 limit p q).Follows (.sepEndBy1 limit m m') :=
  item.attempt.bind fun value => item.gatherSepEnd separator limit [value]

theorem sepEndBy (item : p.Follows m) (separator : q.Follows m') (limit : Nat) :
    (sepEndBy limit p q).Follows (.sepEndBy limit m m') :=
  item.attempted [] (fun value => item.gatherSepEnd separator limit [value])
    fun _ => (Matcher.sure_sepEnd m m' limit).map _

end Follows

end Parser

end CommittedChoice
