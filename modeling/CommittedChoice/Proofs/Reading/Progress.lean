import CommittedChoice.Grammar.Characters
import CommittedChoice.Grammar.Limit
import CommittedChoice.Proofs.Reading.Founded

/-! Loops over bodies that never succeed on the empty text. Without rules a grammar of such loops
comes to an end from every state, since every complete round of a loop takes a character that no
other round of it takes; only a list that is counted may have no room. -/
namespace CommittedChoice

variable {ι : Type} {τ : ι → Type} {α β : Type}

namespace Grammar

/-- There are no rules, and the bodies of all loops consume. What is made from a value counts when
the value may be given. -/
def Progresses (rules : Rules τ) : {α : Type} → Grammar τ α → Prop
  | _, .pure _ | _, .fail _ | _, .readChar | _, .consumeOne | _, .satisfy _ | _, .literal _ => True
  | _, .rule _ => False
  | _, .map _ g => g.Progresses rules
  | _, .bind g next =>
    g.Progresses rules ∧ ∀ value, g.Gives rules value → (next value).Progresses rules
  | _, .seqRight first second => first.Progresses rules ∧ second.Progresses rules
  | _, .seqLeft first second => first.Progresses rules ∧ second.Progresses rules
  | _, .seqPair first second => first.Progresses rules ∧ second.Progresses rules
  | _, .between opening closing g =>
    opening.Progresses rules ∧ closing.Progresses rules ∧ g.Progresses rules
  | _, .recognize g => g.Progresses rules
  | _, .orElse first second => first.Progresses rules ∧ second.Progresses rules
  | _, .choice alternatives => ∀ i, (alternatives i).Progresses rules
  | _, .attempt g => g.Progresses rules
  | _, .lookAhead g => g.Progresses rules
  | _, .notFollowedBy g => g.Progresses rules
  | _, .label _ g => g.Progresses rules
  | _, .option _ g => g.Progresses rules
  | _, .optional g => g.Progresses rules
  | _, .many g => g.Progresses rules ∧ g.Consumes rules
  | _, .many1 g => g.Progresses rules ∧ g.Consumes rules
  | _, .manyTill g terminator =>
    g.Progresses rules ∧ terminator.Progresses rules ∧ g.Consumes rules
  | _, @count _ _ _ _ _ g => g.Progresses rules
  | _, .sepBy item separator =>
    item.Progresses rules ∧ separator.Progresses rules ∧ (separator.seqRight item).Consumes rules
  | _, .sepBy1 item separator =>
    item.Progresses rules ∧ separator.Progresses rules ∧ (separator.seqRight item).Consumes rules
  | _, .endBy item separator =>
    item.Progresses rules ∧ separator.Progresses rules ∧ (item.seqLeft separator).Consumes rules
  | _, .endBy1 item separator =>
    item.Progresses rules ∧ separator.Progresses rules ∧ (item.seqLeft separator).Consumes rules
  | _, .sepEndBy item separator =>
    item.Progresses rules ∧ separator.Progresses rules ∧ (separator.seqRight item).Consumes rules
  | _, .sepEndBy1 item separator =>
    item.Progresses rules ∧ separator.Progresses rules ∧ (separator.seqRight item).Consumes rules
  | _, .later build => (build ()).Progresses rules

/-- There is room for every list that is counted. -/
def Reserves (rules : Rules τ) : {α : Type} → Grammar τ α → Prop
  | _, .pure _ | _, .fail _ | _, .readChar | _, .consumeOne | _, .satisfy _ | _, .literal _
  | _, .rule _ => True
  | _, .map _ g => g.Reserves rules
  | _, .bind g next =>
    g.Reserves rules ∧ ∀ value, g.Gives rules value → (next value).Reserves rules
  | _, .seqRight first second => first.Reserves rules ∧ second.Reserves rules
  | _, .seqLeft first second => first.Reserves rules ∧ second.Reserves rules
  | _, .seqPair first second => first.Reserves rules ∧ second.Reserves rules
  | _, .between opening closing g =>
    opening.Reserves rules ∧ closing.Reserves rules ∧ g.Reserves rules
  | _, .recognize g => g.Reserves rules
  | _, .orElse first second => first.Reserves rules ∧ second.Reserves rules
  | _, .choice alternatives => ∀ i, (alternatives i).Reserves rules
  | _, .attempt g => g.Reserves rules
  | _, .lookAhead g => g.Reserves rules
  | _, .notFollowedBy g => g.Reserves rules
  | _, .label _ g => g.Reserves rules
  | _, .option _ g => g.Reserves rules
  | _, .optional g => g.Reserves rules
  | _, .many g => g.Reserves rules
  | _, .many1 g => g.Reserves rules
  | _, .manyTill g terminator => g.Reserves rules ∧ terminator.Reserves rules
  | _, @count _ _ α _ times g => Reservable α times ∧ g.Reserves rules
  | _, .sepBy item separator => item.Reserves rules ∧ separator.Reserves rules
  | _, .sepBy1 item separator => item.Reserves rules ∧ separator.Reserves rules
  | _, .endBy item separator => item.Reserves rules ∧ separator.Reserves rules
  | _, .endBy1 item separator => item.Reserves rules ∧ separator.Reserves rules
  | _, .sepEndBy item separator => item.Reserves rules ∧ separator.Reserves rules
  | _, .sepEndBy1 item separator => item.Reserves rules ∧ separator.Reserves rules
  | _, .later build => (build ()).Reserves rules

variable {rules : Rules τ} {g : Grammar τ α} {h : Grammar τ β} {input : String}
  {state inner start : State} {front text : List Char} {fuel bound : Nat}

/-- Where no rule is entered, nothing needs to be in front of one. -/
theorem Progresses.founded (progresses : g.Progresses rules) (reserves : g.Reserves rules)
    (moved : Prop) : g.Founded rules (fun _ => False) moved := by
  induction g generalizing moved with
  | pure | fail | readChar | consumeOne | satisfy | literal => trivial
  | rule => exact progresses.elim
  | bind _ _ ih each =>
    exact ⟨ih progresses.1 reserves.1 _, fun value given =>
      each value (progresses.2 value given) (reserves.2 value given) _⟩
  | seqRight _ _ first second | seqLeft _ _ first second | seqPair _ _ first second
  | orElse _ _ first second =>
    exact ⟨first progresses.1 reserves.1 _, second progresses.2 reserves.2 _⟩
  | between _ _ _ opening closing ih =>
    exact ⟨opening progresses.1 reserves.1 _, closing progresses.2.1 reserves.2.1 _,
      ih progresses.2.2 reserves.2.2 _⟩
  | choice _ each => exact fun i => each i (progresses i) (reserves i) _
  | many _ ih | many1 _ ih => exact ⟨ih progresses.1 reserves _, progresses.2⟩
  | manyTill _ _ item other | sepBy _ _ item other | sepBy1 _ _ item other
  | endBy _ _ item other | endBy1 _ _ item other | sepEndBy _ _ item other
  | sepEndBy1 _ _ item other =>
    exact ⟨item progresses.1 reserves.1 _, other progresses.2.1 reserves.2 _, progresses.2.2⟩
  | count _ _ ih => exact ⟨reserves.1, ih progresses reserves.2 _⟩
  | later _ ih => exact ih () progresses reserves _
  | map _ _ ih | recognize _ ih | attempt _ ih | lookAhead _ ih | notFollowedBy _ ih | label _ _ ih
  | option _ _ ih | optional _ ih => exact ih progresses reserves _

/-- Fuel above the length of a text is enough for it, since only loops use fuel. -/
theorem Progresses.halts (progresses : g.Progresses rules) (reserves : g.Reserves rules)
    (enough : bound < fuel) : (g.run rules fuel).Halts bound :=
  (progresses.founded reserves False).run_halts (fun _ named => named.elim) enough

/-- A part of a grammar is run where it has a value only if the value may be given. -/
theorem Enters.progresses (entered : Enters rules g state h inner)
    (reached : Reachable input state) (progresses : g.Progresses rules) : h.Progresses rules := by
  cases entered with
  | literal => trivial
  | bindNext first => exact progresses.2 _ ⟨_, _, _, reached, first⟩
  | bind | seqRight | seqLeft | seqPair | opening | orElse => exact progresses.1
  | many | many1 | manyTill | sepBy | sepBy1 | sepEndBy | sepEndBy1 => exact progresses.1
  | seqRightNext | seqLeftNext | seqPairNext | orElseNext => exact progresses.2
  | content => exact progresses.2.2
  | closing | terminator | sepEndBySeparator | sepEndBy1Separator => exact progresses.2.1
  | choice => exact progresses 0
  | choiceNext => exact fun i => progresses i.succ
  | sepByNext | sepBy1Next => exact ⟨⟨progresses.2.1, progresses.1⟩, progresses.2.2⟩
  | endBy | endBy1 => exact ⟨⟨progresses.1, progresses.2.1⟩, progresses.2.2⟩
  | rule => exact progresses.elim
  | _ => exact progresses

theorem Visits.progresses (visits : Visits rules g state h inner)
    (reached : Reachable input state) (progresses : g.Progresses rules) : h.Progresses rules := by
  induction visits with
  | here => exact progresses
  | inside entered _ ih =>
    exact ih (entered.reachable reached) (entered.progresses reached progresses)

section Loops

variable {loop : Grammar τ (List α)} {step : State → α → State → Prop}

/-- Every round of a loop in a grammar that progresses shortens the text. -/
theorem Repeats.shortens (repeats : loop.Repeats rules inner start step)
    (progresses : loop.Progresses rules) : Shortens step := by
  cases repeats with
  | many | many1 => exact progresses.2.shortens
  | manyTill =>
    refine progresses.2.2.shortens.passes ?_
    rintro _ _ _ _ _ splits ⟨fuel, run⟩
    exact (run_local rules fuel _).splits_of_clean splits run
  | _ => exact progresses.2.2.shortens

theorem Repeats.splits (repeats : loop.Repeats rules inner start step)
    (splits : inner.Splits front text) :
    ∃ front left, start.Splits front left ∧ left.length ≤ text.length := by
  cases repeats with
  | sepBy first | sepBy1 first | sepEndBy first | sepEndBy1 first => exact first.left splits
  | _ => exact ⟨front, text, splits, Nat.le_refl _⟩

end Loops

/-- A grammar without rules, whose loops have bodies that always consume, ends with a reply from
every state that runs lead to, when there is room for the lists it counts. Room or none, each loop
on the way has at most as many complete rounds as there are characters left where it starts. -/
theorem progressing_terminates (reached : Reachable input state)
    (progresses : g.Progresses rules) :
    (g.Reserves rules → ∃ reply, g.Replies rules state reply) ∧
    ∀ {γ : Type} {loop : Grammar τ (List γ)} {inner start after : State}
      {step : State → γ → State → Prop} {values : List γ},
      g.Visits rules state loop inner → loop.Repeats rules inner start step →
      Chain step start values after →
      ∃ rest left, inner.rest? = some rest ∧ start.rest? = some left ∧
        values.length ≤ left.length ∧ left.length ≤ rest.length := by
  constructor
  · intro reserves
    obtain ⟨front, text, splits⟩ := reached.sound.splits
    obtain ⟨reply, run⟩ := (progresses.halts reserves (Nat.lt_succ_self text.length)).replies
      splits (Nat.le_refl _)
    exact ⟨reply, _, run⟩
  · intro γ loop inner start after step values visits repeats chain
    obtain ⟨front, text, splits⟩ := (visits.reachable reached).sound.splits
    obtain ⟨front', left, splits', shorter⟩ := repeats.splits splits
    have shortens := repeats.shortens (visits.progresses reached progresses)
    obtain ⟨_, last, _, fewer⟩ := chain.length_le shortens splits'
    refine ⟨_, _, splits.rest?, splits'.rest?, ?_, ?_⟩
    · rw [String.length_ofList]
      omega
    · simpa using shorter

/-- Rows of one or two characters, as the digit says, with commas between them that may be missing.
A zero would allow empty rows, and is not read. -/
theorem sized_rows_terminate :
    let row (size : Char) : Grammar (fun _ : Empty => Unit) (List Char) :=
      .count (size.toNat - '0'.toNat) (noneOf ",")
    let comma : Grammar (fun _ : Empty => Unit) Unit := .optional (.literal ",")
    let rows : Grammar (fun _ : Empty => Unit) (List (List Char)) :=
      .bind (oneOf "12") fun size => .sepEndBy (row size) comma
    let state : State := .start "2ab,cde"
    let inner : State := ⟨"2ab,cde", 1, some 0⟩
    let start : State := ⟨"2ab,cde", 3, some 2⟩
    let after : State := ⟨"2ab,cde", 6, some 5⟩
    rows.Progresses .empty ∧ rows.Reserves .empty ∧
      (∃ reply, rows.Replies .empty state reply) ∧
      Chain (Succeeds ((comma.seqRight (row '2')).Replies .empty)) start [['c', 'd']] after ∧
      ∃ rest left, inner.rest? = some rest ∧ start.rest? = some left ∧ 1 ≤ left.length ∧
        left.length ≤ rest.length := by
  intro row comma rows state inner start after
  have digits (fuel : Nat) : ((oneOf "12").run .empty fuel : Parser Char).Yields
      fun size _ => size = '1' ∨ size = '2' :=
    Parser.yields_satisfy fun size accepted => by simpa using accepted
  have consumes : ∀ size, size = '1' ∨ size = '2' →
      (comma.seqRight (row size)).Consumes .empty := by
    intro size sized
    have letters (fuel : Nat) : ((noneOf ",").run .empty fuel : Parser Char).Yields
        fun _ piece => piece ≠ [] := Parser.yields_satisfy fun _ _ => List.cons_ne_nil _ _
    have positive : 0 < size.toNat - '0'.toNat := by rcases sized with rfl | rfl <;> decide
    refine consumes_of_yields fun fuel => ?_
    refine (run_local .empty fuel comma).yields.seqRight fun _ piece _ => ?_
    refine ((letters fuel).count _).mono ?_
    rintro values text ⟨length, pieces⟩
    have long := pieces.length_le fun _ _ some => some
    exact List.ne_nil_of_length_pos (by rw [List.length_append]; omega)
  have progresses : rows.Progresses .empty :=
    ⟨trivial, fun size given => ⟨trivial, trivial, consumes size (given.of_yields digits)⟩⟩
  have reserves : rows.Reserves .empty := by
    refine ⟨trivial, fun size given => ⟨⟨?_, trivial⟩, trivial⟩⟩
    rcases given.of_yields digits with rfl | rfl <;> decide
  have sized : (oneOf "12" : Grammar (fun _ : Empty => Unit) Char).Replies .empty state
      (.success '2', inner) := ⟨0, by decide⟩
  have first : (row '2').Replies .empty inner (.success ['a', 'b'], start) := ⟨0, by decide⟩
  have round : (comma.seqRight (row '2')).Replies .empty start (.success ['c', 'd'], after) :=
    ⟨0, by decide⟩
  have chain : Chain (Succeeds ((comma.seqRight (row '2')).Replies .empty)) start [['c', 'd']]
      after := .cons round .nil
  have reached : Reachable "2ab,cde" state := .start
  have terminates := progressing_terminates reached progresses
  exact ⟨progresses, reserves, terminates.1 reserves, chain,
    terminates.2 (.inside (.bindNext sized) .here) (.sepEndBy first) chain⟩

/-- A count is no loop with a body that may stand still, and this one has no reply. -/
theorem large_count_unanswered :
    let letters : Grammar (fun _ : Empty => Unit) (List Char) := .count storageLimit (.char 'a')
    Reachable "b" (.start "b") ∧ letters.Progresses .empty ∧
      ¬∃ reply, letters.Replies .empty (.start "b") reply := by
  intro letters
  have large : ¬Reservable Char storageLimit := by decide
  exact ⟨.start, trivial, fun ⟨_, replies⟩ => large replies.room⟩

end Grammar

end CommittedChoice
