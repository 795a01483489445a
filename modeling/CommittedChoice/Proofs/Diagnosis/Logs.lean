import CommittedChoice.Proofs.Diagnosis.Track
import CommittedChoice.Proofs.Locality.Loops

/-! Every run is tracked by its log. Each combinator hands on the states of its parts, so that their
tracks join to one; the induction for a grammar is on its tree, and for a rule on how deep rules may
be entered. -/
namespace CommittedChoice

namespace Parser

variable {α β γ : Type} {p p' : Parser α} {q : Parser β} {log log' body terminator : Log}
  {state : State}

/-- Whatever the run has come to, the log leads there. -/
def Tracked (p : Parser α) (log : Log) : Prop :=
  ∀ ⦃state reply⦄, p state = some reply → Track state (log state) reply.2

namespace Tracked

/-- What is made of a reply may move its cursor. -/
theorem turn {next : State → Reply α → Option (Reply β)} (first : p.Tracked log)
    (same : ∀ state reply reply', next state reply = some reply' →
      ∃ cursor, reply'.2 = reply.2.rewind cursor) :
    Tracked (fun state => p state >>= next state) log := by
  intro state reply' run
  obtain ⟨reply, ran, rest⟩ := Option.bind_eq_some_iff.mp run
  obtain ⟨cursor, turned⟩ := same state reply reply' rest
  rw [turned]
  exact (first ran).rewound cursor

theorem pure (value : α) : (pure value).Tracked .quiet := by
  rintro state _ ⟨⟩
  exact .still state

theorem fail (expected : Expected) : (fail expected : Parser α).Tracked (.fail expected) := by
  rintro state _ ⟨⟩
  exact .single state

theorem readChar : readChar.Tracked .quiet := by
  intro state reply run
  unfold Parser.readChar at run
  split at run
  · cases run
    exact .still state
  · cases run
    exact .still state

theorem consumeOne : consumeOne.Tracked .consumeOne := by
  rintro state _ ⟨⟩
  exact .single state

theorem satisfy (accepts : Char → Bool) : (satisfy accepts).Tracked (.satisfy accepts) := by
  intro state reply run
  unfold Parser.satisfy at run
  unfold Log.satisfy
  cases peek : state.peek with
  | none =>
    rw [peek] at run
    cases run
    exact .still state
  | some char =>
    rw [peek] at run
    by_cases accepted : accepts char
    · simp only [accepted, if_true] at run ⊢
      cases run
      exact .single state
    · simp only [accepted] at run ⊢
      cases run
      exact .still state

theorem matchChars (chars : List Char) (state : State) :
    Track state (Log.matchChars chars state) (matchChars chars state).2 := by
  induction chars generalizing state with
  | nil => exact .still state
  | cons char chars ih =>
    rw [Log.matchChars, Parser.matchChars]
    split
    · exact (Track.single state).append (ih state.advance)
    · exact .still state

theorem literal (text : String) : (literal text).Tracked (.matchChars text.toList) := by
  intro state reply run
  have track := matchChars text.toList state
  unfold Parser.literal at run
  split at run
  next after matched =>
    cases run
    rwa [matched] at track
  next after mismatched =>
    cases run
    rwa [mismatched] at track

theorem map (f : α → β) (first : p.Tracked log) : (p.map f).Tracked log := by
  apply first.turn
  rintro state ⟨_ | value, after⟩ _ ⟨⟩
  · exact ⟨after.cursor, rfl⟩
  · exact ⟨after.cursor, rfl⟩

theorem recognize (first : p.Tracked log) : p.recognize.Tracked log := by
  apply first.turn
  rintro state ⟨_ | value, after⟩ _ ⟨⟩
  · exact ⟨after.cursor, rfl⟩
  · exact ⟨after.cursor, rfl⟩

theorem attempt (first : p.Tracked log) : p.attempt.Tracked log := by
  apply first.turn
  rintro state ⟨_ | value, after⟩ _ ⟨⟩
  · exact ⟨state.cursor, rfl⟩
  · exact ⟨after.cursor, rfl⟩

theorem lookAhead (first : p.Tracked log) : p.lookAhead.Tracked log := by
  apply first.turn
  rintro state ⟨_ | value, after⟩ _ ⟨⟩
  · exact ⟨after.cursor, rfl⟩
  · exact ⟨state.cursor, rfl⟩

theorem notFollowedBy (first : p.Tracked log) : p.notFollowedBy.Tracked log := by
  apply first.turn
  rintro state ⟨_ | value, after⟩ _ ⟨⟩
  · exact ⟨state.cursor, rfl⟩
  · exact ⟨state.cursor, rfl⟩

/-- Whether a failure is clean decides on its outcome and not on its state. -/
theorem clean_or {start : Nat} {clean consuming : Outcome Expected β} {reply : Reply β}
    (rest : (if state.cursor = start then some (clean, state) else some (consuming, state)) =
      some reply) : ∃ cursor, reply.2 = state.rewind cursor := by
  refine ⟨state.cursor, ?_⟩
  split at rest
  · cases rest
    rfl
  · cases rest
    rfl

theorem label (text : String) (first : p.Tracked log) : (p.label text).Tracked log := by
  apply first.turn
  rintro state ⟨_ | value, after⟩ _ rest
  · exact clean_or rest
  · cases rest
    exact ⟨after.cursor, rfl⟩

theorem option (default : α) (first : p.Tracked log) : (p.option default).Tracked log := by
  apply first.turn
  rintro state ⟨_ | value, after⟩ _ rest
  · exact clean_or rest
  · cases rest
    exact ⟨after.cursor, rfl⟩

theorem optional (first : p.Tracked log) : p.optional.Tracked log := by
  apply first.turn
  rintro state ⟨_ | value, after⟩ _ rest
  · exact clean_or rest
  · cases rest
    exact ⟨after.cursor, rfl⟩

theorem bind {k : α → Parser β} {logs : α → Log} (first : p.Tracked log)
    (next : ∀ value, (k value).Tracked (logs value)) : (p.bind k).Tracked (.bind p log logs) := by
  intro state reply run
  obtain ⟨⟨expected | value, middle⟩, ran, rest⟩ := Option.bind_eq_some_iff.mp run
  · cases rest
    rw [Log.bind, ran]
    exact (first ran).append (.still middle)
  · rw [Log.bind, ran]
    exact (first ran).append (next value rest)

theorem seqRight (first : p.Tracked log) (second : q.Tracked log') :
    (p.seqRight q).Tracked (.bind p log fun _ => log') :=
  first.bind fun _ => second

theorem seqLeft (first : p.Tracked log) (second : q.Tracked log') :
    (p.seqLeft q).Tracked (.bind p log fun _ => log') :=
  first.bind fun value => second.map fun _ => value

theorem seqPair (first : p.Tracked log) (second : q.Tracked log') :
    (p.seqPair q).Tracked (.bind p log fun _ => log') :=
  first.bind fun value => second.map fun other => (value, other)

theorem between {r : Parser γ} (opening : p.Tracked log) (closing : q.Tracked log')
    (content : r.Tracked body) :
    (between p q r).Tracked (.bind p log fun _ => .bind r body fun _ => log') :=
  opening.bind fun _ => content.seqLeft closing

theorem orElse (first : p.Tracked log) (second : p'.Tracked log') :
    (p.orElse p').Tracked (.orElse p log log') := by
  intro state reply run
  obtain ⟨⟨expected | value, middle⟩, ran, rest⟩ := Option.bind_eq_some_iff.mp run
  · rw [Log.orElse, ran]
    dsimp only [Log.afterClean] at rest ⊢
    split at rest
    next clean =>
      rw [if_pos clean]
      obtain ⟨⟨outcome, after⟩, ran', rest'⟩ := Option.bind_eq_some_iff.mp rest
      have further : Track middle (log' middle) after := second ran'
      cases outcome with
      | failure expected' =>
        obtain ⟨cursor, turned⟩ := clean_or rest'
        rw [turned]
        exact ((first ran).append further).rewound cursor
      | success value =>
        cases rest'
        exact (first ran).append further
    next consuming =>
      rw [if_neg consuming]
      cases rest
      exact (first ran).append (.still middle)
  · cases rest
    rw [Log.orElse, ran]
    exact (first ran).append (.still middle)

theorem choiceFrom {alternatives : List (Parser α × Log)} (start : Nat)
    (each : ∀ alternative ∈ alternatives, alternative.1.Tracked alternative.2)
    (expected : Expected) :
    (choiceFrom start (alternatives.map Prod.fst) expected).Tracked
      (.choiceFrom start alternatives) := by
  induction alternatives generalizing expected with
  | nil =>
    rintro state _ ⟨⟩
    exact .still state
  | cons alternative others ih =>
    obtain ⟨p, log⟩ := alternative
    have first : p.Tracked log := each (p, log) (by simp)
    intro state reply run
    obtain ⟨⟨expected' | value, middle⟩, (ran : p state = _), rest⟩ :=
      Option.bind_eq_some_iff.mp run
    · rw [Log.choiceFrom, ran]
      dsimp only [Log.afterClean] at rest ⊢
      split at rest
      next clean =>
        rw [if_pos clean]
        exact (first ran).append
          (ih (fun other member => each other (by simp [member])) _ rest)
      next consuming =>
        rw [if_neg consuming]
        cases rest
        exact (first ran).append (.still middle)
    · cases rest
      rw [Log.choiceFrom, ran]
      exact (first ran).append (.still middle)

theorem choice {n : Nat} {ps : Fin n → Parser α} {logs : Fin n → Log}
    (each : ∀ i, (ps i).Tracked (logs i)) : (choice (List.ofFn ps)).Tracked fun state =>
      Log.choiceFrom state.cursor (List.ofFn fun i => (ps i, logs i)) state := by
  intro state reply run
  have same : List.ofFn ps = (List.ofFn fun i => (ps i, logs i)).map Prod.fst := by
    rw [List.map_ofFn]
    rfl
  rw [Parser.choice, same] at run
  refine choiceFrom state.cursor (fun alternative member => ?_) .nothing run
  obtain ⟨i, rfl⟩ := List.mem_ofFn.mp member
  exact each i

/-- What starts with an attempt goes on from a success, and a failure only gives the cursor
back. -/
theorem attempted {k : α → Parser β} {logs : α → Log} (first : p.Tracked log)
    (next : ∀ value, (k value).Tracked (logs value)) (failed : Expected → Outcome Expected β) :
    Tracked (fun state => p.attempt state >>= fun reply =>
      match reply with
      | (.success value, after) => k value after
      | (.failure expected, after) => some (failed expected, after)) (.bind p log logs) := by
  intro state reply run
  obtain ⟨middle, attempted, rest⟩ := Option.bind_eq_some_iff.mp run
  rcases attempt_eq_some.mp attempted with ⟨value, after, ran, rfl⟩ | ⟨expected, after, ran, rfl⟩
  · rw [Log.bind, ran]
    exact (first ran).append (next value rest)
  · cases rest
    rw [Log.bind, ran]
    exact (first ran).append (.rewind after state.cursor)

theorem gather (first : p.Tracked body) (limit : Nat) (taken : List α) :
    (gather p limit taken).Tracked (.rounds p body limit) := by
  induction limit generalizing taken with
  | zero => rintro _ _ ⟨⟩
  | succ limit rounds =>
    exact first.attempted (k := fun value => Parser.gather p limit (value :: taken))
      (fun value => rounds (value :: taken)) fun _ => .success taken.reverse

theorem many1 (first : p.Tracked body) (limit : Nat) :
    (many1 limit p).Tracked (.rounds p body (limit + 1)) :=
  first.attempted (k := fun value => Parser.gather p limit [value])
    (fun value => first.gather limit [value]) .failure

theorem gatherTill (first : p.Tracked body) (ending : q.Tracked terminator) (limit : Nat)
    (taken : List α) : (gatherTill p q limit taken).Tracked
      (.roundsTill p q body terminator limit) := by
  induction limit generalizing taken with
  | zero => rintro _ _ ⟨⟩
  | succ limit rounds =>
    intro state reply run
    obtain ⟨⟨expected | other, middle⟩, ran, rest⟩ := Option.bind_eq_some_iff.mp run
    · rw [Log.roundsTill, Log.orElse, ran]
      dsimp only [Log.afterClean] at rest ⊢
      split at rest
      next clean =>
        rw [if_pos clean]
        obtain ⟨⟨expected' | value, after⟩, ran', rest'⟩ := Option.bind_eq_some_iff.mp rest
        · rw [Log.bind, ran']
          obtain ⟨cursor, turned⟩ := clean_or rest'
          rw [turned]
          exact ((ending ran).append ((first ran').append (.still after))).rewound cursor
        · rw [Log.bind, ran']
          exact (ending ran).append ((first ran').append (rounds (value :: taken) rest'))
      next consuming =>
        rw [if_neg consuming]
        cases rest
        exact (ending ran).append (.still middle)
    · cases rest
      rw [Log.roundsTill, Log.orElse, ran]
      exact (ending ran).append (.still middle)

theorem countFrom (first : p.Tracked body) (times : Nat) (taken : List α) :
    (countFrom p times taken).Tracked (.rounds p body times) := by
  induction times generalizing taken with
  | zero =>
    rintro state _ ⟨⟩
    exact .still state
  | succ times rounds =>
    intro state reply run
    obtain ⟨⟨expected | value, middle⟩, ran, rest⟩ := Option.bind_eq_some_iff.mp run
    · cases rest
      rw [Log.rounds, Log.bind, ran]
      exact (first ran).append (.still middle)
    · rw [Log.rounds, Log.bind, ran]
      exact (first ran).append (rounds (value :: taken) rest)

theorem count [Stored α] (first : p.Tracked body) (times : Nat) :
    (count times p).Tracked (if Reservable α times then .rounds p body times else .quiet) := by
  intro state reply run
  obtain ⟨room, run⟩ := count_eq_some.mp run
  rw [if_pos room]
  exact first.countFrom times [] run

theorem gatherSeparated (item : p.Tracked log) (separator : q.Tracked log') (limit : Nat)
    (taken : List α) : (gatherSeparated p q limit taken).Tracked
      (.rounds (q.seqRight p) (.bind q log' fun _ => log) limit) := by
  rw [gatherSeparated_eq]
  exact (separator.seqRight item).gather limit taken

theorem sepBy (item : p.Tracked log) (separator : q.Tracked log') (limit : Nat) :
    (sepBy limit p q).Tracked (.bind p log fun _ =>
      .rounds (q.seqRight p) (.bind q log' fun _ => log) limit) :=
  item.attempted (k := fun value => Parser.gatherSeparated p q limit [value])
    (fun value => item.gatherSeparated separator limit [value]) fun _ => .success []

theorem sepBy1 (item : p.Tracked log) (separator : q.Tracked log') (limit : Nat) :
    (sepBy1 limit p q).Tracked (.bind p log fun _ =>
      .rounds (q.seqRight p) (.bind q log' fun _ => log) limit) :=
  item.attempted (k := fun value => Parser.gatherSeparated p q limit [value])
    (fun value => item.gatherSeparated separator limit [value]) .failure

/-- A separator without an item after it stays consumed, and the log is that of a separator and an
item taken together. -/
theorem gatherSepEnd (item : p.Tracked log) (separator : q.Tracked log') (limit : Nat)
    (taken : List α) : (gatherSepEnd p q limit taken).Tracked
      (.rounds (q.seqRight p) (.bind q log' fun _ => log) limit) := by
  induction limit generalizing taken with
  | zero => rintro _ _ ⟨⟩
  | succ limit rounds =>
    intro state reply run
    rw [Log.rounds, Log.bind, Log.bind]
    obtain ⟨_, attempted, rest⟩ := Option.bind_eq_some_iff.mp run
    rcases attempt_eq_some.mp attempted with ⟨other, middle, ran, rfl⟩ | ⟨expected, middle, ran, rfl⟩
    · obtain ⟨_, attempted', rest'⟩ := Option.bind_eq_some_iff.mp rest
      rcases attempt_eq_some.mp attempted' with ⟨value, after, ran', rfl⟩ |
          ⟨expected, after, ran', rfl⟩
      · have both : q.seqRight p state = some (.success value, after) := by
          simp [Parser.seqRight, ran, ran']
        rw [ran, both]
        exact ((separator ran).append (item ran')).append (rounds (value :: taken) rest')
      · have both : q.seqRight p state = some (.failure expected, after) := by
          simp [Parser.seqRight, ran, ran']
        cases rest'
        rw [ran, both]
        exact ((separator ran).append (item ran')).append (.rewind after middle.cursor)
    · have both : q.seqRight p state = some (.failure expected, middle) := by
        simp [Parser.seqRight, ran]
      cases rest
      rw [ran, both]
      exact ((separator ran).append (.still middle)).append (.rewind middle state.cursor)

theorem sepEndBy (item : p.Tracked log) (separator : q.Tracked log') (limit : Nat) :
    (sepEndBy limit p q).Tracked (.bind p log fun _ =>
      .rounds (q.seqRight p) (.bind q log' fun _ => log) limit) :=
  item.attempted (k := fun value => Parser.gatherSepEnd p q limit [value])
    (fun value => item.gatherSepEnd separator limit [value]) fun _ => .success []

theorem sepEndBy1 (item : p.Tracked log) (separator : q.Tracked log') (limit : Nat) :
    (sepEndBy1 limit p q).Tracked (.bind p log fun _ =>
      .rounds (q.seqRight p) (.bind q log' fun _ => log) limit) :=
  item.attempted (k := fun value => Parser.gatherSepEnd p q limit [value])
    (fun value => item.gatherSepEnd separator limit [value]) .failure

end Tracked

end Parser

variable {ι : Type} {τ : ι → Type} {α : Type}

theorem Grammar.parser_tracked {call : (name : ι) → Parser (τ name)} {calls : ι → Log}
    (rules : ∀ name, (call name).Tracked (calls name)) (limit : Nat) (g : Grammar τ α) :
    (g.parser call limit).Tracked (g.events call calls limit) := by
  induction g with
  | pure value => exact .pure value
  | fail expected => exact .fail expected
  | readChar => exact .readChar
  | consumeOne => exact .consumeOne
  | satisfy accepts => exact .satisfy accepts
  | literal text => exact .literal text
  | map f _ ih => exact ih.map f
  | bind _ _ ih next => exact ih.bind next
  | seqRight _ _ first second => exact first.seqRight second
  | seqLeft _ _ first second => exact first.seqLeft second
  | seqPair _ _ first second => exact first.seqPair second
  | between _ _ _ opening closing ih => exact opening.between closing ih
  | recognize _ ih => exact ih.recognize
  | orElse _ _ first second => exact first.orElse second
  | choice alternatives each => exact .choice each
  | attempt _ ih => exact ih.attempt
  | lookAhead _ ih => exact ih.lookAhead
  | notFollowedBy _ ih => exact ih.notFollowedBy
  | label text _ ih => exact ih.label text
  | option default _ ih => exact ih.option default
  | optional _ ih => exact ih.optional
  | many _ ih => exact ih.gather limit []
  | many1 _ ih => exact ih.many1 limit
  | manyTill _ _ ih terminator => exact ih.gatherTill terminator limit []
  | count times _ ih => exact ih.count times
  | sepBy _ _ item separator => exact item.sepBy separator limit
  | sepBy1 _ _ item separator => exact item.sepBy1 separator limit
  | endBy _ _ item separator => exact (item.seqLeft separator).gather limit []
  | endBy1 _ _ item separator => exact (item.seqLeft separator).many1 limit
  | sepEndBy _ _ item separator => exact item.sepEndBy separator limit
  | sepEndBy1 _ _ item separator => exact item.sepEndBy1 separator limit
  | later _ ih => exact ih ()
  | rule name => exact rules name

theorem Rules.parser_tracked (rules : Rules τ) (limit depth : Nat) (name : ι) :
    (rules.parser limit depth name).Tracked (rules.events limit depth name) := by
  induction depth generalizing name with
  | zero => rintro _ _ ⟨⟩
  | succ depth ih => exact (rules name).parser_tracked ih limit

theorem Grammar.run_tracked (rules : Rules τ) (fuel : Nat) (g : Grammar τ α) :
    (g.run rules fuel).Tracked (g.log rules fuel) :=
  g.parser_tracked (rules.parser_tracked fuel fuel) fuel

end CommittedChoice
