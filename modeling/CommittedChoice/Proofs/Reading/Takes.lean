import CommittedChoice.Proofs.Locality.Loops
import CommittedChoice.Proofs.Reading.Pieces

/-! What a parser takes from a text. `Takes` tells the outcome of a run over a text, the part it
consumes and the part it leaves; a run that refuses fails and consumes nothing. There is one rule
for each way a combinator goes on. -/
namespace CommittedChoice.Parser

variable {α β γ : Type} {p p' : Parser α} {q : Parser β} {f : α → β} {k : α → Parser β}
  {value : α} {other : β} {taken further left text : List Char} {limit : Nat}

def Takes (p : Parser α) (taken left : List Char) (outcome : Outcome Expected α) : Prop :=
  ∀ ⦃state front⦄, State.Splits state front (taken ++ left) →
    ∃ after, p state = some (outcome, after) ∧ after.source = state.source ∧
      after.Splits (front ++ taken) left

def Refuses (p : Parser α) (text : List Char) : Prop := ∃ expected, p.Takes [] text (.failure expected)

theorem takes_pure (value : α) (left : List Char) : (pure value).Takes [] left (.success value) := by
  intro state front splits
  exact ⟨state, rfl, rfl, by simpa using splits⟩

theorem takes_satisfy {accepts : Char → Bool} {char : Char} (accepted : accepts char) :
    (satisfy accepts).Takes [char] left (.success char) := by
  intro state front splits
  refine ⟨state.advance, ?_, rfl, splits.advance⟩
  simp [satisfy, splits.peek, accepted]

theorem refuses_satisfy {accepts : Char → Bool} (rejected : ∀ char ∈ text.head?, ¬accepts char) :
    (satisfy accepts).Refuses text := by
  refine ⟨.nothing, fun state front splits => ⟨state, ?_, rfl, by simpa using splits⟩⟩
  simp only [satisfy, splits.peek, List.nil_append]
  cases head : text.head? with
  | none => rfl
  | some char => simp [rejected char head]

/-- After a part that matches the other characters are still to be matched. -/
theorem matchChars_append (others : List Char) {state : State} {front : List Char}
    (splits : state.Splits front (taken ++ left)) :
    ∃ after, matchChars (taken ++ others) state = matchChars others after ∧
      after.source = state.source ∧ after.Splits (front ++ taken) left := by
  induction taken generalizing state front with
  | nil => exact ⟨state, rfl, rfl, by simpa using splits⟩
  | cons char chars ih =>
    obtain ⟨after, run, source, splits'⟩ := ih splits.advance
    refine ⟨after, ?_, source, by simpa using splits'⟩
    simp [matchChars, splits.peek, run]

theorem takes_literal (text : String) : (literal text).Takes text.toList left (.success text) := by
  intro state front splits
  obtain ⟨after, run, source, splits'⟩ := matchChars_append [] splits
  refine ⟨after, ?_, source, splits'⟩
  rw [List.append_nil] at run
  rw [literal, run]
  rfl

/-- A literal stops at the first character that differs, and what has matched is consumed. -/
theorem takes_mismatch {literalText : String} (taken : List Char) (char : Char)
    {others : List Char} (spelled : literalText.toList = taken ++ char :: others)
    (differs : left.head? ≠ some char) :
    (literal literalText).Takes taken left (.failure (.literal literalText)) := by
  intro state front splits
  obtain ⟨after, run, source, splits'⟩ := matchChars_append (char :: others) splits
  refine ⟨after, ?_, source, splits'⟩
  simp [literal, spelled, run, matchChars, splits'.peek, differs]

theorem refuses_literal {literalText : String} {char : Char} {chars : List Char}
    (spelled : literalText.toList = char :: chars) (differs : text.head? ≠ some char) :
    (literal literalText).Refuses text :=
  ⟨_, takes_mismatch [] char spelled differs⟩

namespace Takes

theorem bind {outcome : Outcome Expected β} (first : p.Takes taken (further ++ left) (.success value))
    (second : (k value).Takes further left outcome) :
    (p.bind k).Takes (taken ++ further) left outcome := by
  intro state front splits
  obtain ⟨middle, run, source, splits⟩ := first (by simpa using splits)
  obtain ⟨after, run', source', splits⟩ := second splits
  refine ⟨after, ?_, source'.trans source, by simpa using splits⟩
  simp only [Parser.bind, run]
  exact run'

theorem bind_failure {expected : Expected} (first : p.Takes taken left (.failure expected)) :
    (p.bind k).Takes taken left (.failure expected) := by
  intro state front splits
  obtain ⟨after, run, kept⟩ := first splits
  exact ⟨after, by simp only [Parser.bind, run]; rfl, kept⟩

theorem map (f : α → β) (first : p.Takes taken left (.success value)) :
    (p.map f).Takes taken left (.success (f value)) := by
  intro state front splits
  obtain ⟨after, run, kept⟩ := first splits
  exact ⟨after, by simp only [Parser.map, run]; rfl, kept⟩

theorem seqRight {outcome : Outcome Expected β}
    (first : p.Takes taken (further ++ left) (.success value))
    (second : q.Takes further left outcome) : (p.seqRight q).Takes (taken ++ further) left outcome :=
  first.bind (k := fun _ => q) second

theorem seqLeft (first : p.Takes taken (further ++ left) (.success value))
    (second : q.Takes further left (.success other)) :
    (p.seqLeft q).Takes (taken ++ further) left (.success value) :=
  first.bind (k := fun value => q.map fun _ => value) (second.map _)

theorem seqPair (first : p.Takes taken (further ++ left) (.success value))
    (second : q.Takes further left (.success other)) :
    (p.seqPair q).Takes (taken ++ further) left (.success (value, other)) :=
  first.bind (k := fun value => q.map fun other => (value, other)) (second.map _)

theorem between {r : Parser γ} {inner : γ} {opened closed : List Char}
    (opening : p.Takes opened (taken ++ closed ++ left) (.success value))
    (content : r.Takes taken (closed ++ left) (.success inner))
    (closing : q.Takes closed left (.success other)) :
    (between p q r).Takes (opened ++ (taken ++ closed)) left (.success inner) :=
  opening.bind (k := fun _ => r.seqLeft q) (content.seqLeft closing)

/-- The recognized text is what the parser has taken. -/
theorem recognize (first : p.Takes taken left (.success value)) :
    p.recognize.Takes taken left (.success (String.ofList taken)) := by
  intro state front splits
  obtain ⟨after, run, source, splits'⟩ := first splits
  refine ⟨after, ?_, source, splits'⟩
  simp only [Parser.recognize, run, Option.bind_eq_bind, Option.bind_some,
    State.Splits.between? splits splits', Option.getD_some]

theorem attempt (first : p.Takes taken left (.success value)) :
    p.attempt.Takes taken left (.success value) := by
  intro state front splits
  obtain ⟨after, run, kept⟩ := first splits
  exact ⟨after, by simp only [Parser.attempt, run]; rfl, kept⟩

/-- A failure gives back what it has taken. -/
theorem attempt_refuses {expected : Expected} (first : p.Takes taken left (.failure expected)) :
    p.attempt.Refuses (taken ++ left) := by
  refine ⟨expected, fun state front splits => ?_⟩
  obtain ⟨after, run, source, _⟩ := first splits
  refine ⟨after.rewind state.cursor, by simp only [Parser.attempt, run]; rfl, source, ?_⟩
  simpa using splits.rewind source

theorem label (name : String) (first : p.Takes taken left (.success value)) :
    (p.label name).Takes taken left (.success value) := by
  intro state front splits
  obtain ⟨after, run, kept⟩ := first splits
  exact ⟨after, by simp only [Parser.label, run]; rfl, kept⟩

theorem optional (first : p.Takes taken left (.success value)) :
    p.optional.Takes taken left (.success ()) := by
  intro state front splits
  obtain ⟨after, run, kept⟩ := first splits
  exact ⟨after, by simp only [Parser.optional, run]; rfl, kept⟩

theorem orElse (first : p.Takes taken left (.success value)) :
    (p.orElse p').Takes taken left (.success value) := by
  intro state front splits
  obtain ⟨after, run, kept⟩ := first splits
  exact ⟨after, by simp only [Parser.orElse, run]; rfl, kept⟩

end Takes

/-- A clean failure leaves a state at the same place. -/
theorem Refuses.run (refuses : p.Refuses text) {state : State} {front : List Char}
    (splits : state.Splits front text) : ∃ expected after, p state = some (.failure expected, after) ∧
      after.cursor = state.cursor ∧ after.source = state.source ∧ after.Splits front text := by
  obtain ⟨expected, fails⟩ := refuses
  obtain ⟨after, run, source, splits'⟩ := fails splits
  rw [List.append_nil] at splits'
  exact ⟨expected, after, run, splits'.cursor.trans splits.cursor.symm, source, splits'⟩

/-- What runs after a clean failure runs as from the start. -/
theorem Takes.orElse_next (first : p.Refuses (taken ++ left))
    (second : p'.Takes taken left (.success value)) :
    (p.orElse p').Takes taken left (.success value) := by
  intro state front splits
  obtain ⟨expected, middle, run, clean, source, splits⟩ := first.run splits
  obtain ⟨after, run', source', splits⟩ := second splits
  refine ⟨after, ?_, source'.trans source, splits⟩
  simp only [Parser.orElse, run, Option.bind_eq_bind, Option.bind_some, clean, if_true, run']

theorem Takes.optional_none (first : p.Refuses left) : p.optional.Takes [] left (.success ()) := by
  intro state front splits
  obtain ⟨expected, middle, run, clean, source, splits⟩ := first.run splits
  refine ⟨middle, ?_, source, by simpa using splits⟩
  simp only [Parser.optional, run, Option.bind_eq_bind, Option.bind_some, clean, if_true]

/-- An alternative is tried when all before it have failed cleanly. -/
theorem Takes.choice {before others : List (Parser α)}
    (refused : ∀ parser ∈ before, parser.Refuses (taken ++ left))
    (chosen : p.Takes taken left (.success value)) :
    (choice (before ++ p :: others)).Takes taken left (.success value) := by
  intro state front splits
  rw [Parser.choice]
  -- The alternatives before start where the choice has started, with labels gathered so far.
  suffices tried : ∀ (middle : State) (expected : Expected), middle.cursor = state.cursor →
      middle.source = state.source → middle.Splits front (taken ++ left) →
      ∃ after, choiceFrom state.cursor (before ++ p :: others) expected middle =
        some (.success value, after) ∧ after.source = state.source ∧
        after.Splits (front ++ taken) left from tried state .nothing rfl rfl splits
  induction before with
  | nil =>
    intro middle expected _ source splits
    obtain ⟨after, run, source', splits⟩ := chosen splits
    refine ⟨after, ?_, source'.trans source, splits⟩
    simp only [List.nil_append, choiceFrom, run]
    rfl
  | cons parser parsers ih =>
    intro middle expected stayed source splits
    obtain ⟨expected', after, run, clean, source', splits⟩ := (refused parser (by simp)).run splits
    simp only [List.cons_append, choiceFrom, run, Option.bind_eq_bind, Option.bind_some, clean,
      stayed, if_true]
    exact ih (fun other member => refused other (by simp [member])) after _ (clean.trans stayed)
      (source'.trans source) splits

namespace Refuses

theorem bind (first : p.Refuses text) : (p.bind k).Refuses text := by
  obtain ⟨expected, fails⟩ := first
  exact ⟨expected, fails.bind_failure⟩

theorem map (f : α → β) (first : p.Refuses text) : (p.map f).Refuses text := by
  refine first.imp fun expected fails => ?_
  intro state front splits
  obtain ⟨after, run, kept⟩ := fails splits
  exact ⟨after, by simp only [Parser.map, run]; rfl, kept⟩

theorem seqRight (first : p.Refuses text) : (p.seqRight q).Refuses text :=
  first.bind (k := fun _ => q)

theorem seqLeft (first : p.Refuses text) : (p.seqLeft q).Refuses text :=
  first.bind (k := fun value => q.map fun _ => value)

theorem seqPair (first : p.Refuses text) : (p.seqPair q).Refuses text :=
  first.bind (k := fun value => q.map fun other => (value, other))

theorem between {r : Parser γ} (opening : p.Refuses text) : (between p q r).Refuses text :=
  opening.bind (k := fun _ => r.seqLeft q)

theorem recognize (first : p.Refuses text) : p.recognize.Refuses text := by
  refine first.imp fun expected fails => ?_
  intro state front splits
  obtain ⟨after, run, kept⟩ := fails splits
  exact ⟨after, by simp only [Parser.recognize, run]; rfl, kept⟩

theorem attempt (first : p.Refuses text) : p.attempt.Refuses text := by
  obtain ⟨expected, fails⟩ := first
  exact fails.attempt_refuses

theorem label (name : String) (first : p.Refuses text) : (p.label name).Refuses text := by
  refine ⟨.label name, fun state front splits => ?_⟩
  obtain ⟨expected, after, run, clean, source, splits⟩ := first.run splits
  refine ⟨after, ?_, source, by simpa using splits⟩
  simp only [Parser.label, run, Option.bind_eq_bind, Option.bind_some, clean, if_true]

theorem orElse (first : p.Refuses text) (second : p'.Refuses text) :
    (p.orElse p').Refuses text := by
  obtain ⟨expected, fails⟩ := first
  obtain ⟨expected', fails'⟩ := second
  refine ⟨expected.merge expected', fun state front splits => ?_⟩
  obtain ⟨middle, run, source, splits'⟩ := fails splits
  have clean : middle.cursor = state.cursor := by simp [splits'.cursor, splits.cursor]
  obtain ⟨after, run', source', splits''⟩ := fails' (by simpa using splits')
  have clean' : after.cursor = state.cursor := by simp [splits''.cursor, splits.cursor]
  refine ⟨after, ?_, source'.trans source, by simpa using splits''⟩
  simp only [Parser.orElse, run, run', Option.bind_eq_bind, Option.bind_some, clean, clean', if_true]

/-- Every alternative is tried at the same place, and the labels of all are gathered. -/
theorem choice {parsers : List (Parser α)} (refused : ∀ parser ∈ parsers, parser.Refuses text) :
    (choice parsers).Refuses text := by
  suffices tried : ∀ expected, ∃ expected', ∀ ⦃state front⦄, State.Splits state front text →
      ∃ after, choiceFrom state.cursor parsers expected state =
        some (.failure expected', after) ∧ after.source = state.source ∧
        after.Splits front text by
    obtain ⟨expected, fails⟩ := tried .nothing
    refine ⟨expected, fun state front splits => ?_⟩
    simpa [Parser.choice] using fails splits
  induction parsers with
  | nil => exact fun expected => ⟨expected, fun state front splits => ⟨state, rfl, rfl, splits⟩⟩
  | cons parser parsers ih =>
    intro expected
    obtain ⟨gathered, fails⟩ := refused parser (by simp)
    obtain ⟨expected', tried⟩ :=
      ih (fun other member => refused other (by simp [member])) (expected.merge gathered)
    refine ⟨expected', fun state front splits => ?_⟩
    obtain ⟨middle, run, source, splits'⟩ := fails splits
    rw [List.append_nil] at splits'
    have clean : middle.cursor = state.cursor := splits'.cursor.trans splits.cursor.symm
    obtain ⟨after, run', source', splits''⟩ := tried splits'
    rw [clean] at run'
    refine ⟨after, ?_, source'.trans source, splits''⟩
    simp only [choiceFrom, run, Option.bind_eq_bind, Option.bind_some, clean, if_true, run']

end Refuses

/-- Pieces that are taken one after the other, each before the others and what is left. -/
inductive InLine (p : Parser α) (left : List Char) : List α → List Char → Prop where
  | nil : InLine p left [] []
  | cons {value : α} {values : List α} {piece text : List Char}
      (first : p.Takes piece (text ++ left) (.success value)) (others : InLine p left values text) :
      InLine p left (value :: values) (piece ++ text)

variable {R : α → List Char → Prop} {S T : List Char → Prop} {values : List α}

theorem InLine.append {more : List α} {rest : List Char} (first : InLine p (rest ++ left) values text)
    (second : InLine p left more rest) : InLine p left (values ++ more) (text ++ rest) := by
  induction first with
  | nil => exact second
  | cons head _ ih =>
    rw [List.append_assoc]
    exact .cons (by rwa [List.append_assoc]) ih

theorem InLine.ofPieces (pieces : Pieces R values text)
    (each : ∀ value piece rest, R value piece → T rest → p.Takes piece rest (.success value))
    (starts : ∀ value piece rest, R value piece → T (piece ++ rest)) (stop : T left) :
    InLine p left values text := by
  induction pieces with
  | nil => exact .nil
  | @cons value values piece text first others ih =>
    have follows : T (text ++ left) := by
      cases others with
      | nil => exact stop
      | cons next _ =>
        rw [List.append_assoc]
        exact starts _ _ _ next
    exact .cons (each _ _ _ first follows) ih

namespace Takes

/-- The rounds of a loop are taken one by one, and it ends where a round is refused. -/
theorem rounds (line : InLine p left values text) (ended : p.Refuses left)
    (fewer : values.length < limit) (before : List α) :
    (gather p limit before).Takes text left (.success (before.reverse ++ values)) := by
  induction line generalizing limit before with
  | nil =>
    obtain ⟨limit, rfl⟩ : ∃ fewer, limit = fewer + 1 := ⟨limit - 1, by omega⟩
    intro state front splits
    obtain ⟨expected, after, run, _, source, splits⟩ := ended.attempt.run splits
    refine ⟨after, ?_, source, by simpa using splits⟩
    simp only [Parser.gather, run, List.append_nil]
    rfl
  | @cons value values piece text first others ih =>
    obtain ⟨limit, rfl⟩ : ∃ fewer, limit = fewer + 1 := ⟨limit - 1, by omega⟩
    intro state front splits
    rw [List.append_assoc] at splits
    obtain ⟨middle, run, source, splits⟩ := first.attempt splits
    obtain ⟨after, run', source', splits⟩ :=
      ih (Nat.lt_of_succ_lt_succ fewer) (value :: before) splits
    refine ⟨after, ?_, source'.trans source, by simpa using splits⟩
    simp only [Parser.gather, run, Option.bind_eq_bind, Option.bind_some, run']
    simp

/-- What comes after each piece is a text to stop at, told by `T`; the texts of all pieces are such
texts. -/
theorem gather (pieces : Pieces R values text)
    (each : ∀ value piece rest, R value piece → T rest → p.Takes piece rest (.success value))
    (starts : ∀ value piece rest, R value piece → T (piece ++ rest)) (stop : T left)
    (ended : p.Refuses left) (rounds : values.length < limit) (before : List α) :
    (gather p limit before).Takes text left (.success (before.reverse ++ values)) :=
  Takes.rounds (.ofPieces pieces each starts stop) ended rounds before

theorem many (pieces : Pieces R values text)
    (each : ∀ value piece rest, R value piece → p.Takes piece rest (.success value))
    (ended : p.Refuses left) (rounds : values.length < limit) :
    (many limit p).Takes text left (.success values) :=
  gather (T := fun _ => True) pieces (fun value piece rest known _ => each value piece rest known)
    (fun _ _ _ _ => trivial) trivial ended rounds []

theorem many1 {piece : List Char} (first : R value piece) (others : Pieces R values text)
    (each : ∀ value piece rest, R value piece → p.Takes piece rest (.success value))
    (ended : p.Refuses left) (rounds : values.length < limit) :
    (many1 limit p).Takes (piece ++ text) left (.success (value :: values)) := by
  intro state front splits
  rw [List.append_assoc] at splits
  obtain ⟨middle, run, source, splits⟩ := (each _ _ _ first).attempt splits
  have loop : (Parser.gather p limit [value]).Takes text left (.success (value :: values)) :=
    gather (T := fun _ => True) others
      (fun value piece rest known _ => each value piece rest known)
      (fun _ _ _ _ => trivial) trivial ended rounds [value]
  obtain ⟨after, run', source', splits⟩ := loop splits
  refine ⟨after, ?_, source'.trans source, by simpa using splits⟩
  simp only [Parser.many1, run, Option.bind_eq_bind, Option.bind_some, run']

theorem countFrom (pieces : Pieces R values text)
    (each : ∀ value piece rest, R value piece → p.Takes piece rest (.success value))
    (before : List α) :
    (countFrom p values.length before).Takes text left (.success (before.reverse ++ values)) := by
  induction pieces generalizing before with
  | nil =>
    rw [List.append_nil]
    exact takes_pure _ _
  | @cons value values piece text first others ih =>
    intro state front splits
    rw [List.append_assoc] at splits
    obtain ⟨middle, run, source, splits⟩ := each _ _ _ first splits
    obtain ⟨after, run', source', splits⟩ := ih (value :: before) splits
    refine ⟨after, ?_, source'.trans source, by simpa using splits⟩
    simp only [List.length_cons, Parser.countFrom, run, Option.bind_eq_bind, Option.bind_some, run']
    simp

theorem count [Stored α] (room : Reservable α values.length) (pieces : Pieces R values text)
    (each : ∀ value piece rest, R value piece → p.Takes piece rest (.success value)) :
    (count values.length p).Takes text left (.success values) := by
  rw [Parser.count, if_pos room]
  exact countFrom pieces each []

/-- A list is taken item by item, each but the first with the separator before it. -/
theorem sepBy_cons {piece : List Char} (first : p.Takes piece (text ++ left) (.success value))
    (others : InLine (q.seqRight p) left values text) (ended : q.Refuses left)
    (rounds : values.length < limit) :
    (sepBy limit p q).Takes (piece ++ text) left (.success (value :: values)) := by
  have loop : (gatherSeparated p q limit [value]).Takes text left (.success (value :: values)) := by
    rw [gatherSeparated_eq]
    exact Takes.rounds others ended.seqRight rounds [value]
  intro state front splits
  rw [List.append_assoc] at splits
  obtain ⟨middle, run, source, splits⟩ := first.attempt splits
  obtain ⟨after, run', source', splits⟩ := loop splits
  refine ⟨after, ?_, source'.trans source, by simpa using splits⟩
  simp only [Parser.sepBy, run, Option.bind_eq_bind, Option.bind_some, run']

/-- What follows an item is a separator or the end of the list. -/
theorem sepBy (listed : Listed R S values text)
    (items : ∀ value piece rest, R value piece → T rest → p.Takes piece rest (.success value))
    (separators : ∀ separator value piece rest, S separator → R value piece →
      ∃ other, q.Takes separator (piece ++ rest) (.success other))
    (starts : ∀ separator rest, S separator → T (separator ++ rest)) (stop : T left)
    (refused : p.Refuses left) (ended : q.Refuses left) (rounds : values.length ≤ limit) :
    (sepBy limit p q).Takes text left (.success values) := by
  cases listed with
  | nil =>
    intro state front splits
    obtain ⟨expected, after, run, _, source, splits⟩ := refused.attempt.run splits
    refine ⟨after, ?_, source, by simpa using splits⟩
    simp only [Parser.sepBy, run]
    rfl
  | @cons value values piece text first others =>
    have follows : T (text ++ left) := by
      cases others with
      | nil => exact stop
      | cons next _ =>
        obtain ⟨between, _⟩ := next
        rw [List.append_assoc, List.append_assoc]
        exact starts _ _ between
    have round : ∀ value piece rest, After S R value piece → T rest →
        (q.seqRight p).Takes piece rest (.success value) := by
      rintro value _ rest ⟨between, next⟩ stops
      obtain ⟨other, taken⟩ := separators _ _ _ rest between next
      exact taken.seqRight (items _ _ _ next stops)
    have next : ∀ value piece rest, After S R value piece → T (piece ++ rest) := by
      rintro value _ rest ⟨between, _⟩
      rw [List.append_assoc]
      exact starts _ _ between
    exact sepBy_cons (items _ _ _ first follows) (.ofPieces others round next stop) ended rounds

end Takes

end CommittedChoice.Parser
