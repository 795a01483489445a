import CommittedChoice.Proofs.Reading.Shortening

/-! Runs that end. A local parser halts on the texts of at most so many characters when it replies
on each of them; a loop does when its limit is above that and every round reads something. -/
namespace CommittedChoice

namespace Parser

variable {α β γ : Type} {p p' : Parser α} {q : Parser β} {k : α → Parser β}
  {P : α → List Char → Prop} {bound fewer limit : Nat} {state after : State}
  {front text : List Char}

structure Halts (p : Parser α) (bound : Nat) : Prop where
  here : p.Local
  replies : ∀ {state front text}, State.Splits state front text → text.length ≤ bound →
    ∃ reply, p state = some reply

/-- A run leaves a text that is no longer than the one it began with. -/
theorem Local.left {outcome : Outcome Expected α} (known : p.Local)
    (splits : state.Splits front text) (run : p state = some (outcome, after)) :
    ∃ front left, after.Splits front left ∧ left.length ≤ text.length := by
  obtain ⟨trip, ends, rfl⟩ := known.ends splits run
  refine ⟨_, trip.left, splits.follow ends.within, ?_⟩
  rw [ends.within.split, List.length_append]
  exact Nat.le_add_left _ _

/-- A success leaves a part of the text, whatever it has read. -/
theorem Local.yields (known : p.Local) : p.Yields fun _ _ => True := by
  intro state front text value after splits run
  obtain ⟨trip, ends, rfl⟩ := known.ends splits run
  exact ⟨trip.taken, trip.left, ends.within.split, splits.follow ends.within, trivial⟩

theorem halts_of_replies (here : p.Local) (each : ∀ state, ∃ reply, p state = some reply) :
    p.Halts bound :=
  ⟨here, fun {state _ _} _ _ => each state⟩

theorem halts_readChar : readChar.Halts bound := halts_of_replies .readChar fun state => by
  unfold readChar
  cases state.peek <;> exact ⟨_, rfl⟩

theorem halts_consumeOne : consumeOne.Halts bound :=
  halts_of_replies .consumeOne fun _ => ⟨_, rfl⟩

theorem halts_satisfy (accepts : Char → Bool) : (satisfy accepts).Halts bound :=
  halts_of_replies (.satisfy accepts) fun state => by
    unfold satisfy
    cases state.peek with
    | none => exact ⟨_, rfl⟩
    | some char => by_cases accepted : accepts char <;> simp [accepted]

theorem halts_literal (text : String) : (literal text).Halts bound :=
  halts_of_replies (.literal text) fun state => by
    unfold literal
    rcases matchChars text.toList state with ⟨_ | _, after⟩ <;> exact ⟨_, rfl⟩

namespace Halts

theorem mono (known : p.Halts bound) (less : fewer ≤ bound) : p.Halts fewer :=
  ⟨known.here, fun splits short => known.replies splits (Nat.le_trans short less)⟩

/-- What is made of every reply is a reply again. -/
theorem turn {next : State → Reply α → Option (Reply β)} (known : p.Halts bound)
    (here : Local fun state => p state >>= next state)
    (rest : ∀ state reply, ∃ reply', next state reply = some reply') :
    Halts (fun state => p state >>= next state) bound := by
  refine ⟨here, fun {state _ _} splits short => ?_⟩
  obtain ⟨reply, run⟩ := known.replies splits short
  obtain ⟨reply', run'⟩ := rest state reply
  refine ⟨reply', ?_⟩
  simp only [run]
  exact run'

theorem map (f : α → β) (known : p.Halts bound) : (p.map f).Halts bound :=
  known.turn (known.here.map f) fun _ ⟨outcome, _⟩ => by cases outcome <;> exact ⟨_, rfl⟩

theorem attempt (known : p.Halts bound) : p.attempt.Halts bound :=
  known.turn known.here.attempt fun _ ⟨outcome, _⟩ => by cases outcome <;> exact ⟨_, rfl⟩

theorem lookAhead (known : p.Halts bound) : p.lookAhead.Halts bound :=
  known.turn known.here.lookAhead fun _ ⟨outcome, _⟩ => by cases outcome <;> exact ⟨_, rfl⟩

theorem notFollowedBy (known : p.Halts bound) : p.notFollowedBy.Halts bound :=
  known.turn known.here.notFollowedBy fun _ ⟨outcome, _⟩ => by cases outcome <;> exact ⟨_, rfl⟩

theorem exists_ite {condition : Prop} [Decidable condition] {clean consuming : Reply α} :
    ∃ reply, (if condition then some clean else some consuming) = some reply := by
  split <;> exact ⟨_, rfl⟩

theorem label (text : String) (known : p.Halts bound) : (p.label text).Halts bound :=
  known.turn (known.here.label text) fun _ ⟨outcome, _⟩ => by
    cases outcome with
    | success _ => exact ⟨_, rfl⟩
    | failure _ => exact exists_ite

theorem option (default : α) (known : p.Halts bound) : (p.option default).Halts bound :=
  known.turn (known.here.option default) fun _ ⟨outcome, _⟩ => by
    cases outcome with
    | success _ => exact ⟨_, rfl⟩
    | failure _ => exact exists_ite

theorem optional (known : p.Halts bound) : p.optional.Halts bound :=
  known.turn known.here.optional fun _ ⟨outcome, _⟩ => by
    cases outcome with
    | success _ => exact ⟨_, rfl⟩
    | failure _ => exact exists_ite

theorem recognize (known : p.Halts bound) : p.recognize.Halts bound :=
  known.turn known.here.recognize fun _ ⟨outcome, _⟩ => by cases outcome <;> exact ⟨_, rfl⟩

/-- What follows a success has the text that this has left, and needs to halt on no other. -/
theorem followed {next : Reply α → Option (Reply β)} (known : p.Halts bound) (read : p.Yields P)
    (here : Local fun state => p state >>= next)
    (success : ∀ value piece, P value piece → piece.length ≤ bound →
      Halts (fun middle => next (.success value, middle)) (bound - piece.length))
    (failure : ∀ expected middle, ∃ reply, next (.failure expected, middle) = some reply) :
    Halts (fun state => p state >>= next) bound := by
  refine ⟨here, fun splits short => ?_⟩
  obtain ⟨⟨expected | value, middle⟩, run⟩ := known.replies splits short
  · obtain ⟨reply, run'⟩ := failure expected middle
    exact ⟨reply, by simp only [run]; exact run'⟩
  · obtain ⟨piece, left, rfl, splits', holds⟩ := read splits run
    rw [List.length_append] at short
    obtain ⟨reply, run'⟩ := (success value piece holds (by omega)).replies splits' (by omega)
    exact ⟨reply, by simp only [run]; exact run'⟩

theorem bind (known : p.Halts bound) (next : ∀ value, (k value).Halts bound) :
    (p.bind k).Halts bound :=
  known.followed known.here.yields (known.here.bind fun value => (next value).here)
    (fun value _ _ _ => (next value).mono (Nat.sub_le _ _)) fun _ _ => ⟨_, rfl⟩

theorem seqRight (known : p.Halts bound) (second : q.Halts bound) : (p.seqRight q).Halts bound :=
  known.bind fun _ => second

theorem seqLeft (known : p.Halts bound) (second : q.Halts bound) : (p.seqLeft q).Halts bound :=
  known.bind (k := fun value => q.map fun _ => value) fun _ => second.map _

theorem orElse (first : p.Halts bound) (second : p'.Halts bound) : (p.orElse p').Halts bound := by
  refine ⟨first.here.orElse second.here, fun {state _ _} splits short => ?_⟩
  obtain ⟨⟨expected | value, middle⟩, run⟩ := first.replies splits short
  · by_cases clean : middle.cursor = state.cursor
    · obtain ⟨_, left, splits', shorter⟩ := first.here.left splits run
      obtain ⟨⟨expected' | value, after⟩, run'⟩ :=
        second.replies splits' (Nat.le_trans shorter short)
      · simp only [Parser.orElse, run, run', Option.bind_eq_bind, Option.bind_some, clean, if_true]
        by_cases clean' : after.cursor = state.cursor <;> simp [clean']
      · simp [Parser.orElse, run, run', clean]
    · simp [Parser.orElse, run, clean]
  · simp [Parser.orElse, run]

theorem choiceFrom {parsers : List (Parser α)} (each : ∀ parser ∈ parsers, parser.Halts bound)
    (start : Nat) (expected : Expected) (splits : state.Splits front text)
    (short : text.length ≤ bound) :
    ∃ reply, choiceFrom start parsers expected state = some reply := by
  induction parsers generalizing state front text expected with
  | nil => exact ⟨_, rfl⟩
  | cons parser parsers ih =>
    have head := each parser List.mem_cons_self
    obtain ⟨⟨expected' | value, middle⟩, run⟩ := head.replies splits short
    · simp only [Parser.choiceFrom, run, Option.bind_eq_bind, Option.bind_some]
      split
      · obtain ⟨_, left, splits', shorter⟩ := head.here.left splits run
        exact ih (fun other member => each other (List.mem_cons_of_mem _ member)) _ splits'
          (Nat.le_trans shorter short)
      · exact ⟨_, rfl⟩
    · exact ⟨_, by simp only [Parser.choiceFrom, run]; rfl⟩

theorem choice {parsers : List (Parser α)} (each : ∀ parser ∈ parsers, parser.Halts bound) :
    (choice parsers).Halts bound :=
  ⟨.choice fun parser member => (each parser member).here,
    fun {state _ _} splits short => choiceFrom each state.cursor .nothing splits short⟩

theorem countFrom (body : p.Halts bound) (times : Nat) (before : List α) :
    (countFrom p times before).Halts bound := by
  induction times generalizing before with
  | zero => exact halts_of_replies (.pure _) fun _ => ⟨_, rfl⟩
  | succ times ih =>
    exact body.bind (k := fun value => Parser.countFrom p times (value :: before))
      fun value => ih (value :: before)

theorem count [Stored α] (body : p.Halts bound) {times : Nat} (room : Reservable α times) :
    (count times p).Halts bound := by
  rw [Parser.count, if_pos room]
  exact body.countFrom times []

/-- A round succeeds or fails. -/
theorem round (body : p.Halts bound) (splits : state.Splits front text)
    (short : text.length ≤ bound) :
    (∃ value after, Succeeds p.Runs state value after) ∨
      ∃ expected after, p.Runs state (.failure expected, after) := by
  obtain ⟨⟨expected | value, after⟩, run⟩ := body.replies splits short
  · exact .inr ⟨expected, after, run⟩
  · exact .inl ⟨value, after, run⟩

theorem gather (body : p.Halts bound) (grows : p.Yields fun _ piece => piece ≠ [])
    (enough : bound < limit) (before : List α) : (gather p limit before).Halts bound := by
  refine ⟨body.here.gather limit before, fun splits short => ?_⟩
  obtain ⟨values, last, chain, fewer, expected, after, run⟩ :=
    Chain.exists_last grows.shortens (fun _ _ _ => body.round) splits short
      (Nat.lt_of_le_of_lt short enough)
  exact ⟨_, gather_eq_some.mpr ⟨values, last, chain, fewer, expected, after, run, rfl⟩⟩

theorem many (body : p.Halts bound) (grows : p.Yields fun _ piece => piece ≠ [])
    (enough : bound < limit) : (many limit p).Halts bound :=
  body.gather grows enough []

theorem many1 (body : p.Halts bound) (grows : p.Yields fun _ piece => piece ≠ [])
    (enough : bound < limit) : (many1 limit p).Halts bound :=
  body.attempt.bind (k := fun value => Parser.gather p limit [value]) fun value =>
    body.gather grows enough [value]

theorem roundTill (item : p.Halts bound) (terminator : q.Halts bound)
    (splits : state.Splits front text) (short : text.length ≤ bound) :
    (∃ value after, Passes p.Runs q.Runs state value after) ∨
      ∀ values, ∃ reply, StopsAt p.Runs q.Runs state values reply := by
  rcases terminator.round splits short with ⟨other, after, ended⟩ | ⟨expected, middle, unended⟩
  · exact .inr fun values => ⟨_, .inl ⟨other, after, ended, rfl⟩⟩
  · by_cases clean : middle.cursor = state.cursor
    · have splits' := terminator.here.splits_of_clean splits unended clean
      rcases item.round splits' short with ⟨value, after, run⟩ | ⟨expected', after, run⟩
      · exact .inl ⟨value, after, expected, middle, unended, clean, run⟩
      · exact .inr fun values => ⟨_, .inr ⟨expected, middle, unended, by
          rw [if_pos clean]; exact ⟨expected', after, run, rfl⟩⟩⟩
    · exact .inr fun values => ⟨_, .inr ⟨expected, middle, unended, by rw [if_neg clean]⟩⟩

theorem manyTill (item : p.Halts bound) (terminator : q.Halts bound)
    (grows : p.Yields fun _ piece => piece ≠ []) (enough : bound < limit) :
    (manyTill limit p q).Halts bound := by
  refine ⟨item.here.manyTill terminator.here limit, fun splits short => ?_⟩
  have shortens : Shortens (Passes p.Runs q.Runs) :=
    grows.shortens.passes fun _ _ _ _ _ => terminator.here.splits_of_clean
  obtain ⟨values, last, chain, fewer, stopped⟩ :=
    Chain.exists_last shortens (fun _ _ _ => item.roundTill terminator) splits short
      (Nat.lt_of_le_of_lt short enough)
  obtain ⟨reply, stops⟩ := stopped values
  exact ⟨reply, gatherTill_eq_some.mpr ⟨values, last, chain, fewer, stops⟩⟩

/-- A separator and an item follow, or one of the two fails and the list stops there. -/
theorem roundAfter (item : p.Halts bound) (separator : q.Halts bound)
    (splits : state.Splits front text) (short : text.length ≤ bound) :
    (∃ value after, Succeeds (q.seqRight p).Runs state value after) ∨
      ∀ values, ∃ reply, ExhaustsAfter p.Runs q.Runs state values reply := by
  rcases separator.round splits short with ⟨other, middle, run⟩ | ⟨expected, after, run⟩
  · obtain ⟨_, left, splits', shorter⟩ := separator.here.left splits run
    rcases item.round splits' (Nat.le_trans shorter short) with
      ⟨value, after, run'⟩ | ⟨expected, after, run'⟩
    · exact .inl ⟨value, after, bind_eq_some.mpr (.inl ⟨other, middle, run, run'⟩)⟩
    · exact .inr fun values => ⟨_, .inr ⟨other, middle, run, expected, after, run', rfl⟩⟩
  · exact .inr fun values => ⟨_, .inl ⟨expected, after, run, rfl⟩⟩

section Separated

variable (item : p.Halts bound) (separator : q.Halts bound)
  (grows : (q.seqRight p).Yields fun _ piece => piece ≠ []) (enough : bound < limit)
include item separator grows enough

theorem gatherSeparated (before : List α) : (gatherSeparated p q limit before).Halts bound := by
  rw [gatherSeparated_eq]
  exact (separator.seqRight item).gather grows enough before

theorem sepBy : (sepBy limit p q).Halts bound :=
  item.attempt.followed item.attempt.here.yields (item.here.sepBy separator.here limit)
    (fun value _ _ _ => (item.gatherSeparated separator grows enough [value]).mono (Nat.sub_le _ _))
    fun _ _ => ⟨_, rfl⟩

theorem sepBy1 : (sepBy1 limit p q).Halts bound :=
  item.attempt.bind (k := fun value => Parser.gatherSeparated p q limit [value]) fun value =>
    item.gatherSeparated separator grows enough [value]

theorem gatherSepEnd (before : List α) : (gatherSepEnd p q limit before).Halts bound := by
  refine ⟨item.here.gatherSepEnd separator.here limit before, fun splits short => ?_⟩
  obtain ⟨values, last, chain, fewer, stopped⟩ :=
    Chain.exists_last grows.shortens (fun _ _ _ => item.roundAfter separator) splits short
      (Nat.lt_of_le_of_lt short enough)
  obtain ⟨reply, stops⟩ := stopped (before.reverse ++ values)
  exact ⟨reply, gatherSepEnd_eq_some.mpr ⟨values, last, chain, fewer, stops⟩⟩

theorem sepEndBy : (sepEndBy limit p q).Halts bound :=
  item.attempt.followed item.attempt.here.yields (item.here.sepEndBy separator.here limit)
    (fun value _ _ _ => (item.gatherSepEnd separator grows enough [value]).mono (Nat.sub_le _ _))
    fun _ _ => ⟨_, rfl⟩

theorem sepEndBy1 : (sepEndBy1 limit p q).Halts bound :=
  item.attempt.bind (k := fun value => Parser.gatherSepEnd p q limit [value]) fun value =>
    item.gatherSepEnd separator grows enough [value]

end Separated

end Halts

end Parser

end CommittedChoice
