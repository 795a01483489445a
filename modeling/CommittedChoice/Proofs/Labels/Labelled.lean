import CommittedChoice.Grammar.Fuel
import CommittedChoice.Parser.Inversion
import CommittedChoice.Proofs.Labels.Merge

/-! What a failure expects is built by labelling and merging when the explicit failures of the
grammar are: no combinator makes up another one. So no label is ever listed twice. -/
namespace CommittedChoice

variable {α β γ : Type}

/-- If it is a failure, it expects something built by the operations that parsers have. -/
def MadeIn (ended : Option (Reply α)) : Prop :=
  ∀ expected after, ended = some (.failure expected, after) → expected.Made

theorem madeIn_none : MadeIn (none : Option (Reply α)) := by
  rintro _ _ ⟨⟩

theorem madeIn_success (value : α) (after : State) : MadeIn (some (.success value, after)) := by
  rintro _ _ ⟨⟩

theorem madeIn_failure {expected : Expected} (made : expected.Made) (after : State) :
    MadeIn (some ((.failure expected, after) : Reply α)) := by
  rintro _ _ ⟨⟩
  exact made

namespace MadeIn

theorem step {ended : Option (Reply α)} {next : Reply α → Option (Reply β)}
    (first : MadeIn ended) (success : ∀ value after, MadeIn (next (.success value, after)))
    (failure : ∀ expected after, expected.Made → MadeIn (next (.failure expected, after))) :
    MadeIn (ended >>= next) := by
  rcases ended with _ | ⟨expected | value, after⟩
  · exact madeIn_none
  · exact failure expected after (first expected after rfl)
  · exact success value after

theorem ite {condition : Prop} [Decidable condition] {ended ended' : Option (Reply α)}
    (first : MadeIn ended) (second : MadeIn ended') :
    MadeIn (if condition then ended else ended') := by
  split
  · exact first
  · exact second

end MadeIn

namespace Parser

def Makes (p : Parser α) : Prop := ∀ state, MadeIn (p state)

namespace Makes

variable {p : Parser α} {q : Parser β}

theorem pure (value : α) : (pure value).Makes := madeIn_success value

theorem fail {expected : Expected} (made : expected.Made) : (fail expected : Parser α).Makes :=
  madeIn_failure made

theorem readChar : readChar.Makes := by
  intro state
  cases peek : state.peek with
  | none => simpa [Parser.readChar, peek] using madeIn_failure (.label "end of input") state
  | some char => simpa [Parser.readChar, peek] using madeIn_success char state

theorem consumeOne : consumeOne.Makes := fun state => madeIn_success () state.advance

theorem satisfy (accepts : Char → Bool) : (satisfy accepts).Makes := by
  intro state
  unfold Parser.satisfy
  split
  · exact .ite (madeIn_success _ _) (madeIn_failure .nothing _)
  · exact madeIn_failure .nothing _

theorem literal (text : String) : (literal text).Makes := by
  intro state
  unfold Parser.literal
  split
  · exact madeIn_success _ _
  · exact madeIn_failure (.label _) _

theorem bind {k : α → Parser β} (first : p.Makes) (next : ∀ value, (k value).Makes) :
    (p.bind k).Makes := fun state =>
  (first state).step (fun value after => next value after) fun _ after made =>
    madeIn_failure made after

theorem map (f : α → β) (first : p.Makes) : (p.map f).Makes :=
  first.bind fun value => pure (f value)

theorem seqRight (first : p.Makes) (second : q.Makes) : (p.seqRight q).Makes :=
  first.bind fun _ => second

theorem seqLeft (first : p.Makes) (second : q.Makes) : (p.seqLeft q).Makes :=
  first.bind fun value => second.map fun _ => value

theorem seqPair (first : p.Makes) (second : q.Makes) : (p.seqPair q).Makes :=
  first.bind fun value => second.map fun other => (value, other)

theorem between {r : Parser γ} (opening : p.Makes) (closing : q.Makes) (content : r.Makes) :
    (between p q r).Makes :=
  opening.seqRight (content.seqLeft closing)

theorem recognize (first : p.Makes) : p.recognize.Makes := fun state =>
  (first state).step (fun _ _ => madeIn_success _ _) fun _ after made => madeIn_failure made after

theorem orElse {q : Parser α} (first : p.Makes) (second : q.Makes) : (p.orElse q).Makes :=
  fun state => (first state).step (fun _ _ => madeIn_success _ _) fun _ middle made =>
    .ite ((second middle).step (fun _ _ => madeIn_success _ _) fun _ _ made' =>
      .ite (madeIn_failure (.merge made made') _) (madeIn_failure made' _)) (madeIn_failure made _)

theorem choiceFrom (start : Nat) {parsers : List (Parser α)} (each : ∀ p ∈ parsers, p.Makes)
    {expected : Expected} (made : expected.Made) : (choiceFrom start parsers expected).Makes := by
  induction parsers generalizing expected with
  | nil => exact fail made
  | cons parser parsers ih =>
    obtain ⟨first, others⟩ := List.forall_mem_cons.mp each
    exact fun state => (first state).step (fun _ _ => madeIn_success _ _) fun _ after made' =>
      .ite (ih others (.merge made made') after) (madeIn_failure made' _)

theorem choice {parsers : List (Parser α)} (each : ∀ p ∈ parsers, p.Makes) :
    (choice parsers).Makes :=
  fun state => choiceFrom state.cursor each .nothing state

theorem attempt (first : p.Makes) : p.attempt.Makes := fun state =>
  (first state).step (fun _ _ => madeIn_success _ _) fun _ _ made => madeIn_failure made _

theorem lookAhead (first : p.Makes) : p.lookAhead.Makes := fun state =>
  (first state).step (fun _ _ => madeIn_success _ _) fun _ _ made => madeIn_failure made _

/-- A failure of the parser is not passed on, and it makes its own without labels. -/
theorem notFollowedBy (first : p.Makes) : p.notFollowedBy.Makes := fun state =>
  (first state).step (fun _ _ => madeIn_failure .nothing _) fun _ _ _ => madeIn_success _ _

theorem label (text : String) (first : p.Makes) : (p.label text).Makes := fun state =>
  (first state).step (fun _ _ => madeIn_success _ _) fun _ _ made =>
    .ite (madeIn_failure (.label text) _) (madeIn_failure made _)

theorem option (default : α) (first : p.Makes) : (p.option default).Makes := fun state =>
  (first state).step (fun _ _ => madeIn_success _ _) fun _ _ made =>
    .ite (madeIn_success _ _) (madeIn_failure made _)

theorem optional (first : p.Makes) : p.optional.Makes := fun state =>
  (first state).step (fun _ _ => madeIn_success _ _) fun _ _ made =>
    .ite (madeIn_success _ _) (madeIn_failure made _)

theorem gather (first : p.Makes) (limit : Nat) (taken : List α) : (gather p limit taken).Makes := by
  induction limit generalizing taken with
  | zero => exact fun _ => madeIn_none
  | succ limit rounds =>
    exact fun state => (first.attempt state).step
      (fun value after => rounds (value :: taken) after) fun _ _ _ => madeIn_success _ _

theorem many (first : p.Makes) (limit : Nat) : (many limit p).Makes := first.gather limit []

theorem many1 (first : p.Makes) (limit : Nat) : (many1 limit p).Makes :=
  first.attempt.bind fun value => first.gather limit [value]

theorem gatherTill (first : p.Makes) (terminator : q.Makes) (limit : Nat) (taken : List α) :
    (gatherTill p q limit taken).Makes := by
  induction limit generalizing taken with
  | zero => exact fun _ => madeIn_none
  | succ limit rounds =>
    intro state
    refine (terminator state).step (fun _ _ => madeIn_success _ _) fun _ middle made => ?_
    refine .ite ((first middle).step (fun value after => rounds (value :: taken) after) ?_)
      (madeIn_failure made _)
    exact fun _ _ made' => .ite (madeIn_failure (.merge made made') _) (madeIn_failure made' _)

theorem manyTill (first : p.Makes) (terminator : q.Makes) (limit : Nat) :
    (manyTill limit p q).Makes :=
  first.gatherTill terminator limit []

theorem countFrom (first : p.Makes) (times : Nat) (taken : List α) :
    (countFrom p times taken).Makes := by
  induction times generalizing taken with
  | zero => exact pure taken.reverse
  | succ times rounds =>
    exact fun state => (first state).step
      (fun value after => rounds (value :: taken) after) fun _ _ made => madeIn_failure made _

theorem count [Stored α] (times : Nat) (first : p.Makes) : (count times p).Makes := by
  unfold Parser.count
  split
  · exact first.countFrom times []
  · exact fun _ => madeIn_none

theorem gatherSeparated (item : p.Makes) (separator : q.Makes) (limit : Nat) (taken : List α) :
    (gatherSeparated p q limit taken).Makes := by
  rw [gatherSeparated_eq]
  exact (separator.seqRight item).gather limit taken

theorem sepBy (item : p.Makes) (separator : q.Makes) (limit : Nat) : (sepBy limit p q).Makes :=
  fun state => (item.attempt state).step
    (fun value after => item.gatherSeparated separator limit [value] after)
    fun _ _ _ => madeIn_success _ _

theorem sepBy1 (item : p.Makes) (separator : q.Makes) (limit : Nat) : (sepBy1 limit p q).Makes :=
  item.attempt.bind fun value => item.gatherSeparated separator limit [value]

theorem gatherSepEnd (item : p.Makes) (separator : q.Makes) (limit : Nat) (taken : List α) :
    (gatherSepEnd p q limit taken).Makes := by
  induction limit generalizing taken with
  | zero => exact fun _ => madeIn_none
  | succ limit rounds =>
    refine fun state => (separator.attempt state).step (fun _ middle => ?_)
      fun _ _ _ => madeIn_success _ _
    exact (item.attempt middle).step (fun value after => rounds (value :: taken) after)
      fun _ _ _ => madeIn_success _ _

theorem sepEndBy (item : p.Makes) (separator : q.Makes) (limit : Nat) :
    (sepEndBy limit p q).Makes :=
  fun state => (item.attempt state).step
    (fun value after => item.gatherSepEnd separator limit [value] after)
    fun _ _ _ => madeIn_success _ _

theorem sepEndBy1 (item : p.Makes) (separator : q.Makes) (limit : Nat) :
    (sepEndBy1 limit p q).Makes :=
  item.attempt.bind fun value => item.gatherSepEnd separator limit [value]

end Makes

end Parser

variable {ι : Type} {τ : ι → Type}

namespace Grammar

/-- Every explicit failure in the tree expects something built by the operations that parsers
have. -/
def WellLabelled : {α : Type} → Grammar τ α → Prop
  | _, .pure _ | _, .readChar | _, .consumeOne | _, .satisfy _ | _, .literal _ | _, .rule _ => True
  | _, .fail expected => expected.Made
  | _, .map _ g => g.WellLabelled
  | _, .bind g next => g.WellLabelled ∧ ∀ value, (next value).WellLabelled
  | _, .seqRight first second => first.WellLabelled ∧ second.WellLabelled
  | _, .seqLeft first second => first.WellLabelled ∧ second.WellLabelled
  | _, .seqPair first second => first.WellLabelled ∧ second.WellLabelled
  | _, .between opening closing g =>
    opening.WellLabelled ∧ closing.WellLabelled ∧ g.WellLabelled
  | _, .recognize g => g.WellLabelled
  | _, .orElse first second => first.WellLabelled ∧ second.WellLabelled
  | _, .choice alternatives => ∀ i, (alternatives i).WellLabelled
  | _, .attempt g => g.WellLabelled
  | _, .lookAhead g => g.WellLabelled
  | _, .notFollowedBy g => g.WellLabelled
  | _, .label _ g => g.WellLabelled
  | _, .option _ g => g.WellLabelled
  | _, .optional g => g.WellLabelled
  | _, .many g => g.WellLabelled
  | _, .many1 g => g.WellLabelled
  | _, .manyTill g terminator => g.WellLabelled ∧ terminator.WellLabelled
  | _, @count _ _ _ _ _ g => g.WellLabelled
  | _, .sepBy item separator => item.WellLabelled ∧ separator.WellLabelled
  | _, .sepBy1 item separator => item.WellLabelled ∧ separator.WellLabelled
  | _, .endBy item separator => item.WellLabelled ∧ separator.WellLabelled
  | _, .endBy1 item separator => item.WellLabelled ∧ separator.WellLabelled
  | _, .sepEndBy item separator => item.WellLabelled ∧ separator.WellLabelled
  | _, .sepEndBy1 item separator => item.WellLabelled ∧ separator.WellLabelled
  | _, .later build => (build ()).WellLabelled

theorem wellLabelled_choiceOf {alternatives : List (Grammar τ α)}
    (each : ∀ g ∈ alternatives, g.WellLabelled) : (choiceOf alternatives).WellLabelled :=
  fun i => each _ (alternatives.get_mem i)

theorem parser_makes {call : (name : ι) → Parser (τ name)} (calls : ∀ name, (call name).Makes)
    (limit : Nat) {g : Grammar τ α} (labelled : g.WellLabelled) : (g.parser call limit).Makes := by
  induction g with
  | pure value => exact .pure value
  | fail expected => exact .fail labelled
  | readChar => exact .readChar
  | consumeOne => exact .consumeOne
  | satisfy accepts => exact .satisfy accepts
  | literal text => exact .literal text
  | map f _ ih => exact (ih labelled).map f
  | bind _ _ ih next => exact (ih labelled.1).bind fun value => next value (labelled.2 value)
  | seqRight _ _ first second => exact (first labelled.1).seqRight (second labelled.2)
  | seqLeft _ _ first second => exact (first labelled.1).seqLeft (second labelled.2)
  | seqPair _ _ first second => exact (first labelled.1).seqPair (second labelled.2)
  | between _ _ _ opening closing ih =>
    exact (opening labelled.1).between (closing labelled.2.1) (ih labelled.2.2)
  | recognize _ ih => exact (ih labelled).recognize
  | orElse _ _ first second => exact (first labelled.1).orElse (second labelled.2)
  | choice _ each =>
    refine .choice fun parser member => ?_
    obtain ⟨i, rfl⟩ := List.mem_ofFn.mp member
    exact each i (labelled i)
  | attempt _ ih => exact (ih labelled).attempt
  | lookAhead _ ih => exact (ih labelled).lookAhead
  | notFollowedBy _ ih => exact (ih labelled).notFollowedBy
  | label text _ ih => exact (ih labelled).label text
  | option default _ ih => exact (ih labelled).option default
  | optional _ ih => exact (ih labelled).optional
  | many _ ih => exact (ih labelled).many limit
  | many1 _ ih => exact (ih labelled).many1 limit
  | manyTill _ _ ih terminator => exact (ih labelled.1).manyTill (terminator labelled.2) limit
  | count times _ ih => exact (ih labelled).count times
  | sepBy _ _ item separator => exact (item labelled.1).sepBy (separator labelled.2) limit
  | sepBy1 _ _ item separator => exact (item labelled.1).sepBy1 (separator labelled.2) limit
  | endBy _ _ item separator => exact ((item labelled.1).seqLeft (separator labelled.2)).many limit
  | endBy1 _ _ item separator =>
    exact ((item labelled.1).seqLeft (separator labelled.2)).many1 limit
  | sepEndBy _ _ item separator => exact (item labelled.1).sepEndBy (separator labelled.2) limit
  | sepEndBy1 _ _ item separator => exact (item labelled.1).sepEndBy1 (separator labelled.2) limit
  | later _ ih => exact ih () labelled
  | rule name => exact calls name

end Grammar

variable {rules : Rules τ}

theorem Rules.parser_makes (labelled : ∀ name, (rules name).WellLabelled) (limit depth : Nat)
    (name : ι) : (rules.parser limit depth name).Makes := by
  induction depth generalizing name with
  | zero => exact fun _ => madeIn_none
  | succ depth ih => exact Grammar.parser_makes ih limit (labelled name)

theorem Grammar.run_makes (labelled : ∀ name, (rules name).WellLabelled) {g : Grammar τ α}
    (well : g.WellLabelled) (fuel : Nat) : (g.run rules fuel).Makes :=
  Grammar.parser_makes (Rules.parser_makes labelled fuel fuel) fuel well

theorem Grammar.Replies.made (labelled : ∀ name, (rules name).WellLabelled) {g : Grammar τ α}
    (well : g.WellLabelled) {state after : State} {expected : Expected}
    (failed : g.Replies rules state (.failure expected, after)) : expected.Made := by
  obtain ⟨fuel, ended⟩ := failed
  exact Grammar.run_makes labelled well fuel state expected after ended

end CommittedChoice
