import CommittedChoice.Proofs.Diagnosis.Events

/-! Where consuming is guarded by reading. Only a consumption that stands by itself can be done at
the end of the source; in a tree without one, every character consumed is there. -/
namespace CommittedChoice

variable {α β : Type}

/-- What is consumed is a character of the source. -/
def Event.Grounded (event : Event) : Prop := event.act = .consume → event.state.peek.isSome

def Log.Grounded (log : Log) : Prop := ∀ ⦃state event⦄, event ∈ log state → event.Grounded

namespace Log.Grounded

variable {p : Parser α} {q : Parser β} {first second body terminator : Log} {next : α → Log}

theorem quiet : quiet.Grounded := by
  rintro _ _ ⟨⟩

theorem fail (expected : Expected) : (fail expected).Grounded := by
  intro state event member consumed
  rw [List.mem_singleton.mp member] at consumed
  cases consumed

theorem satisfy (accepts : Char → Bool) : (satisfy accepts).Grounded := by
  intro state event member _
  unfold Log.satisfy at member
  split at member
  next char peek =>
    split at member
    · obtain rfl := List.mem_singleton.mp member
      simp [peek]
    · cases member
  next => cases member

theorem matchChars (chars : List Char) : (matchChars chars).Grounded := by
  induction chars with
  | nil => exact quiet
  | cons char chars ih =>
    intro state event member
    rw [Log.matchChars] at member
    split at member
    next peek =>
      rcases List.mem_cons.mp member with rfl | later
      · exact fun _ => by simp [peek]
      · exact ih later
    next => cases member

theorem bind (head : first.Grounded) (others : ∀ value, (next value).Grounded) :
    (Log.bind p first next).Grounded := by
  intro state event member
  rcases List.mem_append.mp member with early | late
  · exact head early
  · unfold afterSuccess at late
    split at late
    next => exact others _ late
    next => cases late

theorem orElse (head : first.Grounded) (other : second.Grounded) :
    (Log.orElse p first second).Grounded := by
  intro state event member
  rcases List.mem_append.mp member with early | late
  · exact head early
  · unfold afterClean at late
    split at late
    next expected after =>
      split at late
      · exact other late
      · cases late
    next => cases late

theorem choiceFrom (start : Nat) {alternatives : List (Parser α × Log)}
    (each : ∀ alternative ∈ alternatives, alternative.2.Grounded) :
    (Log.choiceFrom start alternatives).Grounded := by
  induction alternatives with
  | nil => exact quiet
  | cons alternative others ih =>
    obtain ⟨p, log⟩ := alternative
    intro state event member
    -- The start may be elsewhere, so that this is not quite an `orElse`.
    rcases List.mem_append.mp member with early | late
    · exact each (p, log) List.mem_cons_self early
    · unfold afterClean at late
      split at late
      next expected after =>
        split at late
        · exact ih (fun other listed => each other (List.mem_cons_of_mem _ listed)) late
        · cases late
      next => cases late

theorem rounds (each : body.Grounded) (limit : Nat) : (Log.rounds p body limit).Grounded := by
  induction limit with
  | zero => exact quiet
  | succ limit ih => exact each.bind fun _ => ih

theorem roundsTill (each : body.Grounded) (ending : terminator.Grounded) (limit : Nat) :
    (Log.roundsTill p q body terminator limit).Grounded := by
  induction limit with
  | zero => exact quiet
  | succ limit ih => exact ending.orElse (each.bind fun _ => ih)

end Log.Grounded

variable {ι : Type} {τ : ι → Type}

/-- No consumption stands in the tree but the one behind a character that was read. -/
inductive Grammar.Guarded : {α : Type} → Grammar τ α → Prop where
  | pure {α : Type} (value : α) : Guarded (.pure value)
  | fail {α : Type} (expected : Expected) : Guarded (.fail expected : Grammar τ α)
  | readChar : Guarded .readChar
  | readOne : Guarded (.seqRight .readChar .consumeOne)
  | satisfy (accepts : Char → Bool) : Guarded (.satisfy accepts)
  | literal (text : String) : Guarded (.literal text)
  | map {α β : Type} (f : α → β) {g : Grammar τ α} (inner : g.Guarded) : Guarded (.map f g)
  | bind {α β : Type} {g : Grammar τ α} {next : α → Grammar τ β} (inner : g.Guarded)
      (others : ∀ value, (next value).Guarded) : Guarded (.bind g next)
  | seqRight {α β : Type} {g : Grammar τ α} {h : Grammar τ β} (first : g.Guarded)
      (second : h.Guarded) : Guarded (.seqRight g h)
  | seqLeft {α β : Type} {g : Grammar τ α} {h : Grammar τ β} (first : g.Guarded)
      (second : h.Guarded) : Guarded (.seqLeft g h)
  | seqPair {α β : Type} {g : Grammar τ α} {h : Grammar τ β} (first : g.Guarded)
      (second : h.Guarded) : Guarded (.seqPair g h)
  | between {α β γ : Type} {o : Grammar τ α} {c : Grammar τ β} {g : Grammar τ γ}
      (opening : o.Guarded) (closing : c.Guarded) (inner : g.Guarded) : Guarded (.between o c g)
  | recognize {α : Type} {g : Grammar τ α} (inner : g.Guarded) : Guarded (.recognize g)
  | orElse {α : Type} {g h : Grammar τ α} (first : g.Guarded) (second : h.Guarded) :
      Guarded (.orElse g h)
  | choice {α : Type} {n : Nat} {alternatives : Fin n → Grammar τ α}
      (each : ∀ i, (alternatives i).Guarded) : Guarded (.choice alternatives)
  | attempt {α : Type} {g : Grammar τ α} (inner : g.Guarded) : Guarded (.attempt g)
  | lookAhead {α : Type} {g : Grammar τ α} (inner : g.Guarded) : Guarded (.lookAhead g)
  | notFollowedBy {α : Type} {g : Grammar τ α} (inner : g.Guarded) : Guarded (.notFollowedBy g)
  | label {α : Type} (text : String) {g : Grammar τ α} (inner : g.Guarded) :
      Guarded (.label text g)
  | option {α : Type} (default : α) {g : Grammar τ α} (inner : g.Guarded) :
      Guarded (.option default g)
  | optional {α : Type} {g : Grammar τ α} (inner : g.Guarded) : Guarded (.optional g)
  | many {α : Type} {g : Grammar τ α} (inner : g.Guarded) : Guarded (.many g)
  | many1 {α : Type} {g : Grammar τ α} (inner : g.Guarded) : Guarded (.many1 g)
  | manyTill {α β : Type} {g : Grammar τ α} {terminator : Grammar τ β} (inner : g.Guarded)
      (ending : terminator.Guarded) : Guarded (.manyTill g terminator)
  | count {α : Type} [Stored α] (times : Nat) {g : Grammar τ α} (inner : g.Guarded) :
      Guarded (.count times g)
  | sepBy {α β : Type} {item : Grammar τ α} {separator : Grammar τ β} (first : item.Guarded)
      (second : separator.Guarded) : Guarded (.sepBy item separator)
  | sepBy1 {α β : Type} {item : Grammar τ α} {separator : Grammar τ β} (first : item.Guarded)
      (second : separator.Guarded) : Guarded (.sepBy1 item separator)
  | endBy {α β : Type} {item : Grammar τ α} {separator : Grammar τ β} (first : item.Guarded)
      (second : separator.Guarded) : Guarded (.endBy item separator)
  | endBy1 {α β : Type} {item : Grammar τ α} {separator : Grammar τ β} (first : item.Guarded)
      (second : separator.Guarded) : Guarded (.endBy1 item separator)
  | sepEndBy {α β : Type} {item : Grammar τ α} {separator : Grammar τ β} (first : item.Guarded)
      (second : separator.Guarded) : Guarded (.sepEndBy item separator)
  | sepEndBy1 {α β : Type} {item : Grammar τ α} {separator : Grammar τ β} (first : item.Guarded)
      (second : separator.Guarded) : Guarded (.sepEndBy1 item separator)
  | later {α : Type} {build : Unit → Grammar τ α} (inner : (build ()).Guarded) :
      Guarded (.later build)
  | rule (name : ι) : Guarded (.rule name)

theorem Grammar.events_grounded {call : (name : ι) → Parser (τ name)} {calls : ι → Log}
    (rules : ∀ name, (calls name).Grounded) (limit : Nat) {g : Grammar τ α} (guarded : g.Guarded) :
    (g.events call calls limit).Grounded := by
  induction guarded with
  | pure | readChar => exact .quiet
  | fail expected => exact .fail expected
  | readOne =>
    intro state event member consumed
    rcases List.mem_append.mp member with early | late
    · cases early
    · cases peek : state.peek with
      | none => simp [Grammar.parser, Parser.readChar, peek, Log.afterSuccess] at late
      | some char =>
        simp only [Grammar.parser, Parser.readChar, peek, Log.afterSuccess] at late
        obtain rfl := List.mem_singleton.mp late
        simp [peek]
  | satisfy accepts => exact .satisfy accepts
  | literal text => exact .matchChars text.toList
  | map _ _ ih | recognize _ ih | attempt _ ih | lookAhead _ ih | notFollowedBy _ ih
  | label _ _ ih | option _ _ ih | optional _ ih => exact ih
  | bind _ _ ih others => exact ih.bind others
  | seqRight _ _ first second | seqLeft _ _ first second | seqPair _ _ first second =>
    exact first.bind fun _ => second
  | between _ _ _ opening closing ih => exact opening.bind fun _ => ih.bind fun _ => closing
  | orElse _ _ first second => exact first.orElse second
  | choice _ each =>
    intro state
    refine @Log.Grounded.choiceFrom _ state.cursor _ ?_ state
    intro alternative member
    obtain ⟨i, rfl⟩ := List.mem_ofFn.mp member
    exact each i
  | many _ ih => exact ih.rounds limit
  | many1 _ ih => exact ih.rounds (limit + 1)
  | manyTill _ _ ih ending => exact ih.roundsTill ending limit
  | count times _ ih =>
    rw [events]
    split
    · exact ih.rounds times
    · exact .quiet
  | endBy _ _ item separator => exact (item.bind fun _ => separator).rounds limit
  | endBy1 _ _ item separator => exact (item.bind fun _ => separator).rounds (limit + 1)
  | sepBy _ _ item separator | sepBy1 _ _ item separator | sepEndBy _ _ item separator
  | sepEndBy1 _ _ item separator =>
    exact item.bind fun _ => (separator.bind fun _ => item).rounds limit
  | later _ ih => exact ih
  | rule name => exact rules name

theorem Rules.events_grounded {rules : Rules τ} (guarded : ∀ name, (rules name).Guarded)
    (limit depth : Nat) (name : ι) : (rules.events limit depth name).Grounded := by
  induction depth generalizing name with
  | zero => exact .quiet
  | succ depth ih => exact Grammar.events_grounded ih limit (guarded name)

theorem Grammar.log_grounded {rules : Rules τ} {g : Grammar τ α} (guarded : g.Guarded)
    (each : ∀ name, (rules name).Guarded) (fuel : Nat) : (g.log rules fuel).Grounded :=
  events_grounded (Rules.events_grounded each fuel fuel) fuel guarded

end CommittedChoice
