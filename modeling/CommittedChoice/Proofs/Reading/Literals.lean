import CommittedChoice.Proofs.Reachable.Invariant

/-! A literal is compared with the text before the cursor, character by character. A run consumes
what the two begin with in common, all of it and no more, and succeeds when that is the literal. -/
namespace CommittedChoice

namespace Text

/-- The characters that two texts begin with in common. -/
def commonPrefix : List Char → List Char → List Char
  | char :: chars, char' :: chars' =>
    if char = char' then char :: commonPrefix chars chars' else []
  | _, _ => []

/-- Both texts begin with it, and with nothing that is longer. -/
theorem prefix_commonPrefix_iff {piece first second : List Char} :
    piece <+: commonPrefix first second ↔ piece <+: first ∧ piece <+: second := by
  induction first generalizing piece second with
  | nil => cases second <;> simp +contextual [commonPrefix]
  | cons char chars ih =>
    cases second with
    | nil => simp +contextual [commonPrefix]
    | cons char' chars' =>
      cases piece with
      | nil => simp
      | cons head piece =>
        rw [commonPrefix]
        split
        next same => simp [List.cons_prefix_cons, ih, ← same, and_assoc, and_left_comm]
        next differ =>
          simp only [List.prefix_nil, reduceCtorEq, List.cons_prefix_cons, false_iff]
          rintro ⟨⟨rfl, _⟩, rfl, _⟩
          exact differ rfl

theorem commonPrefix_prefix_left (first second : List Char) :
    commonPrefix first second <+: first :=
  (prefix_commonPrefix_iff.mp (List.prefix_refl _)).1

/-- It is all of the first text when it is as long. -/
theorem length_commonPrefix_eq_iff {first second : List Char} :
    (commonPrefix first second).length = first.length ↔ commonPrefix first second = first :=
  ⟨(commonPrefix_prefix_left first second).eq_of_length, congrArg List.length⟩

/-- Nothing is common when the first characters differ already. -/
theorem commonPrefix_cons_eq_nil_iff {char : Char} {chars text : List Char} :
    commonPrefix (char :: chars) text = [] ↔ text.head? ≠ some char := by
  cases text with
  | nil => simp [commonPrefix]
  | cons head rest =>
    rw [commonPrefix]
    split
    next same => simp [same]
    next differ => simpa using fun same => differ same.symm

end Text

namespace State

variable {state : State} {front text : List Char} {char : Char}

/-- The state after these characters have been consumed one by one: the marker is at the last of
them, unless it was further on. -/
def taking (state : State) (chars : List Char) : State where
  source := state.source
  cursor := state.cursor + Text.size chars
  furthest :=
    if chars = [] then state.furthest
    else some (deepest state.furthest (state.cursor + Text.size chars.dropLast))

@[simp] theorem taking_nil (state : State) : state.taking [] = state := rfl

theorem taking_cursor_eq_iff {chars : List Char} :
    (state.taking chars).cursor = state.cursor ↔ chars = [] := by
  rw [← Text.size_eq_zero]
  exact Nat.add_eq_left

/-- A later offset is the deeper one. -/
theorem deepest_deepest (furthest : Option Nat) {near far : Nat} (ordered : near ≤ far) :
    deepest (some (deepest furthest near)) far = deepest furthest far := by
  cases furthest with
  | none => exact Nat.max_eq_right ordered
  | some marker =>
    show max (max marker near) far = max marker far
    rw [Nat.max_assoc, Nat.max_eq_right ordered]

theorem taking_advance (here : state.peek = some char) (chars : List Char) :
    state.advance.taking chars = state.taking (char :: chars) := by
  cases chars with
  | nil => simp [taking, advance, here]
  | cons next chars =>
    simp only [taking, advance, here, reduceCtorEq, if_false, Option.map_some, Option.getD_some,
      List.dropLast_cons_cons, Text.size_cons, Nat.add_assoc, mk.injEq, true_and]
    rw [deepest_deepest state.furthest (Nat.le_add_right _ _)]

end State

namespace Parser

variable {state : State} {front text : List Char}

/-- The characters in common are matched, and the first that differs stops the match. -/
theorem matchChars_eq (splits : state.Splits front text) (chars : List Char) :
    matchChars chars state =
      (decide (Text.commonPrefix chars text = chars),
        state.taking (Text.commonPrefix chars text)) := by
  induction chars generalizing state front text with
  | nil => simp [matchChars, Text.commonPrefix]
  | cons char chars ih =>
    rw [matchChars, splits.peek]
    split
    next head =>
      obtain ⟨rest, rfl⟩ := List.head?_eq_some_iff.mp head
      rw [ih splits.advance, State.taking_advance splits.peek]
      simp [Text.commonPrefix]
    next differs =>
      simp [Text.commonPrefix_cons_eq_nil_iff.mpr differs]

theorem literal_eq (splits : state.Splits front text) (word : String) :
    literal word state =
      let common := Text.commonPrefix word.toList text
      some (if common.length = word.length then .success word else .failure (.literal word),
        state.taking common) := by
  simp only [literal, matchChars_eq splits, ← String.length_toList, Text.length_commonPrefix_eq_iff]
  by_cases matched : Text.commonPrefix word.toList text = word.toList <;> simp [matched]

/-- A literal has failed cleanly when its first character does not match. -/
theorem literal_clean_iff (splits : state.Splits front text) (word : String) :
    (∃ expected after, literal word state = some (.failure expected, after) ∧
        after.cursor = state.cursor) ↔
      ∃ char chars, word.toList = char :: chars ∧ state.peek ≠ some char := by
  simp only [literal_eq splits, splits.peek]
  cases spelled : word.toList with
  | nil =>
    have empty : 0 = word.length := by rw [← String.length_toList, spelled, List.length_nil]
    simp [Text.commonPrefix, empty]
  | cons char chars =>
    constructor
    · rintro ⟨expected, after, failed, clean⟩
      obtain ⟨_, rfl⟩ := Prod.mk.inj (Option.some.inj failed)
      exact ⟨char, chars, rfl,
        Text.commonPrefix_cons_eq_nil_iff.mp (State.taking_cursor_eq_iff.mp clean)⟩
    · rintro ⟨_, _, ⟨⟩, differs⟩
      have short : ¬0 = word.length := by
        rw [← String.length_toList, spelled]
        exact nofun
      refine ⟨.literal word, state, ?_, rfl⟩
      rw [Text.commonPrefix_cons_eq_nil_iff.mpr differs, List.length_nil, if_neg short,
        State.taking_nil]

/-- After a part that matches the rest is matched from there; a part that does not match is the end
of it. -/
theorem matchChars_parts (first second : List Char) (state : State) :
    matchChars (first ++ second) state =
      match matchChars first state with
      | (true, middle) => matchChars second middle
      | (false, after) => (false, after) := by
  induction first generalizing state with
  | nil => rfl
  | cons char chars ih =>
    rw [List.cons_append, matchChars, matchChars]
    split
    · exact ih state.advance
    · rfl

/-- A literal in two parts ends where the parts do, one after the other. -/
theorem literal_append (word next : String) (state : State) :
    ∃ outcome outcome' after,
      literal (word ++ next) state = some (outcome, after) ∧
      (literal word).seqRight (literal next) state = some (outcome', after) ∧
      outcome.isSuccess = outcome'.isSuccess := by
  simp only [literal, seqRight, String.toList_append, matchChars_parts]
  rcases matchChars word.toList state with ⟨_ | _, middle⟩
  · exact ⟨_, _, middle, rfl, rfl, rfl⟩
  · dsimp only [Option.bind_eq_bind, Option.bind_some]
    rcases matchChars next.toList middle with ⟨_ | _, after⟩
    · exact ⟨_, _, after, rfl, rfl, rfl⟩
    · exact ⟨_, _, after, rfl, rfl, rfl⟩

end Parser

namespace Grammar

variable {ι : Type} {τ : ι → Type} {rules : Rules τ} {input : String} {state : State}

/-- A literal needs no fuel. -/
theorem replies_literal {word : String} {reply : Reply String} :
    (literal word).Replies rules state reply ↔ Parser.literal word state = some reply :=
  ⟨fun ⟨_, run⟩ => run, fun run => ⟨0, run⟩⟩

/-- A literal consumes what it has in common with the remaining text, up to the first character that
differs or the end of either. It succeeds when that is all of it, and has failed cleanly when it is
nothing of it; and it may be split into two literals anywhere. -/
theorem literal_takes_commonPrefix (reached : Reachable input state) (rules : Rules τ)
    (word next : String) :
    ∃ text, state.rest? = some text ∧
      let common := Text.commonPrefix word.toList text.toList
      (∀ reply, (literal word).Replies rules state reply ↔
        (if common.length = word.length then .success word
          else .failure (.label ("\"" ++ word ++ "\"")), state.taking common) = reply) ∧
      ((∃ expected after, (literal word).Replies rules state (.failure expected, after) ∧
          after.cursor = state.cursor) ↔
        ∃ char chars, word.toList = char :: chars ∧ state.peek ≠ some char) ∧
      ∃ outcome outcome' after,
        (literal (word ++ next)).Replies rules state (outcome, after) ∧
        ((literal word).seqRight (literal next)).Replies rules state (outcome', after) ∧
        outcome.isSuccess = outcome'.isSuccess := by
  obtain ⟨front, chars, splits⟩ := reached.sound.splits
  refine ⟨String.ofList chars, splits.rest?, fun reply => ?_, ?_, ?_⟩
  · rw [String.toList_ofList, replies_literal, Parser.literal_eq splits]
    exact Option.some_inj
  · simp only [replies_literal]
    exact Parser.literal_clean_iff splits word
  · obtain ⟨outcome, outcome', after, whole, parts, same⟩ := Parser.literal_append word next state
    exact ⟨outcome, outcome', after, ⟨0, whole⟩, ⟨0, parts⟩, same⟩

/-- Both literals begin like the text behind the letter; the second goes on after that. -/
theorem broken_literal_taken :
    let state : State := ⟨"x日本é", 1, some 0⟩
    let word : Grammar (fun _ : Empty => Unit) String := .literal "日本"
    let longer : Grammar (fun _ : Empty => Unit) String := .literal "日本語"
    Reachable "x日本é" state ∧ state.rest? = some "日本é" ∧
      word.Replies .empty state (.success "日本", ⟨"x日本é", 7, some 4⟩) ∧
      longer.Replies .empty state (.failure (.label "\"日本語\""), ⟨"x日本é", 7, some 4⟩) ∧
      ∃ outcome after, (word.seqRight (.literal "語")).Replies .empty state (outcome, after) ∧
        outcome.isSuccess = false ∧ after = ⟨"x日本é", 7, some 4⟩ := by
  intro state word longer
  have first : (Grammar.consumeOne : Grammar (fun _ : Empty => Unit) Unit).Replies .empty
      (.start "x日本é") (.success (), state) := ⟨0, by decide⟩
  have reached : Reachable "x日本é" state := .step .start first
  have rest : state.rest? = some "日本é" := by decide
  obtain ⟨text, same, replies, _, outcome, outcome', after, whole, parts, alike⟩ :=
    literal_takes_commonPrefix reached .empty "日本" "語"
  obtain rfl := Option.some.inj (rest.symm.trans same)
  have failed : longer.Replies .empty state
      (.failure (.label "\"日本語\""), ⟨"x日本é", 7, some 4⟩) := ⟨0, by decide⟩
  cases whole.unique failed
  exact ⟨reached, rest, (replies _).mpr (by decide), failed, outcome', _, parts, alike.symm, rfl⟩

end Grammar

end CommittedChoice
