import CommittedChoice.Grammar.Characters
import CommittedChoice.Grammar.Limit
import CommittedChoice.Proofs.Reachable.Invariant
import CommittedChoice.Proofs.Reading.Yields

/-! Grammars that answer what they have read. Their values are built of the characters and texts
that were consumed, and whatever was given back on the way is in no value: so the characters of a
value, in order, are the source between the two cursors of the run. -/
namespace CommittedChoice

/-- How values are built of characters and texts. -/
inductive Shape where
  | unit
  | char
  | text
  | pair (left right : Shape)
  | list (item : Shape)

namespace Shape

def Carrier : Shape → Type
  | .unit => Unit
  | .char => Char
  | .text => String
  | .pair left right => left.Carrier × right.Carrier
  | .list item => List item.Carrier

/-- All characters in a value, from the first to the last. -/
def content : (shape : Shape) → shape.Carrier → List Char
  | .unit, _ => []
  | .char, c => [c]
  | .text, t => t.toList
  | .pair left right, values => left.content values.1 ++ right.content values.2
  | .list item, values => values.flatMap item.content

end Shape

variable {ι : Type} {shapes : ι → Shape} {shape : Shape} {limit : Nat}

namespace Grammar

/-- A grammar for values of the shape, over rules for values of the shapes. -/
abbrev Shaped (shapes : ι → Shape) (shape : Shape) : Type 1 :=
  Grammar (fun name => (shapes name).Carrier) shape.Carrier

/-- Grammars built of parsers that answer what they consume, and of predicates. The operand of a
predicate may be any grammar. -/
inductive Verbatim (shapes : ι → Shape) : (shape : Shape) → Shaped shapes shape → Prop where
  | satisfy (accepts : Char → Bool) : Verbatim shapes .char (.satisfy accepts)
  | literal (text : String) : Verbatim shapes .text (.literal text)
  | seqPair {left right : Shape} {g : Shaped shapes left} {h : Shaped shapes right}
      (first : Verbatim shapes left g) (second : Verbatim shapes right h) :
      Verbatim shapes (.pair left right) (.seqPair g h)
  | orElse {shape : Shape} {g h : Shaped shapes shape} (first : Verbatim shapes shape g)
      (second : Verbatim shapes shape h) : Verbatim shapes shape (.orElse g h)
  | choice {shape : Shape} {n : Nat} {alternatives : Fin n → Shaped shapes shape}
      (each : ∀ i, Verbatim shapes shape (alternatives i)) :
      Verbatim shapes shape (.choice alternatives)
  | attempt {shape : Shape} {g : Shaped shapes shape} (inner : Verbatim shapes shape g) :
      Verbatim shapes shape (.attempt g)
  | label {shape : Shape} {g : Shaped shapes shape} (text : String)
      (inner : Verbatim shapes shape g) : Verbatim shapes shape (.label text g)
  | many {shape : Shape} {g : Shaped shapes shape} (inner : Verbatim shapes shape g) :
      Verbatim shapes (.list shape) (.many g)
  | many1 {shape : Shape} {g : Shaped shapes shape} (inner : Verbatim shapes shape g) :
      Verbatim shapes (.list shape) (.many1 g)
  | count {shape : Shape} [Stored shape.Carrier] {g : Shaped shapes shape} (times : Nat)
      (inner : Verbatim shapes shape g) : Verbatim shapes (.list shape) (.count times g)
  | notFollowedBy {α : Type} (g : Grammar (fun name => (shapes name).Carrier) α) :
      Verbatim shapes .unit (.notFollowedBy g)
  | notBefore {shape : Shape} {g : Shaped shapes shape} {α : Type}
      (inner : Verbatim shapes shape g) (next : Grammar (fun name => (shapes name).Carrier) α) :
      Verbatim shapes shape (.notBefore g next)
  | later {shape : Shape} {build : Unit → Shaped shapes shape}
      (inner : Verbatim shapes shape (build ())) : Verbatim shapes shape (.later build)
  | rule (name : ι) : Verbatim shapes (shapes name) (.rule name)

/-- Every named class of characters is a satisfying character under its name. -/
theorem verbatim_class (name : String) (accepts : Char → Bool) :
    Verbatim shapes .char (.label name (.satisfy accepts)) :=
  .label name (.satisfy accepts)

theorem verbatim_eof : Verbatim shapes .unit eof := .label _ (.notFollowedBy _)

/-- What a verbatim grammar has read is the content of its value. -/
theorem Verbatim.yields {g : Shaped shapes shape} (known : Verbatim shapes shape g)
    {call : (name : ι) → Parser (shapes name).Carrier} (calls : ∀ name, (call name).Local)
    (read : ∀ name, (call name).Yields fun value piece => (shapes name).content value = piece) :
    (g.parser call limit).Yields fun value piece => shape.content value = piece := by
  induction known with
  | satisfy accepts => exact Parser.yields_satisfy fun _ _ => rfl
  | literal text => exact Parser.yields_literal rfl
  | seqPair _ _ first second =>
    refine first.seqPair fun value piece same => second.mono fun other rest same' => ?_
    show _ ++ _ = piece ++ rest
    rw [same, same']
  | orElse _ _ first second => exact first.orElse second (parser_local calls limit _)
  | choice _ each =>
    refine .choice (fun parser member => ?_) fun parser member => ?_
    · obtain ⟨i, rfl⟩ := List.mem_ofFn.mp member
      exact each i
    · obtain ⟨i, rfl⟩ := List.mem_ofFn.mp member
      exact parser_local calls limit _
  | attempt _ ih => exact ih.attempt
  | label text _ ih => exact ih.label
  | many _ ih => exact (ih.many (parser_local calls limit _) limit).mono fun _ _ => Pieces.flatMap_eq
  | many1 _ ih =>
    exact (ih.many1 (parser_local calls limit _) limit).mono fun _ _ known => known.2.flatMap_eq
  | count times _ ih => exact (ih.count times).mono fun _ _ known => known.2.flatMap_eq
  | notFollowedBy g =>
    exact (Parser.Yields.notFollowedBy (parser_local calls limit g)).mono fun _ _ same => same.symm
  | notBefore _ next ih =>
    refine ih.seqLeft fun value piece same => ?_
    refine (Parser.Yields.notFollowedBy (parser_local calls limit next)).mono fun _ rest none => ?_
    rw [none, List.append_nil, same]
  | later _ ih => exact ih
  | rule name => exact read name

end Grammar

open Grammar (Shaped Verbatim)

theorem Rules.yields_content {rules : Rules fun name => (shapes name).Carrier}
    (each : ∀ name, Verbatim shapes (shapes name) (rules name)) (depth : Nat) (name : ι) :
    (rules.parser limit depth name).Yields
      fun value piece => (shapes name).content value = piece := by
  induction depth generalizing name with
  | zero => rintro _ _ _ _ _ _ ⟨⟩
  | succ depth ih => exact (each name).yields (rules.parser_local limit depth) ih

namespace Grammar

variable {rules : Rules fun name => (shapes name).Carrier} {g : Shaped shapes shape}
  {input : String} {state after : State} {value : shape.Carrier}

theorem Replies.content (replies : g.Replies rules state (.success value, after))
    (known : Verbatim shapes shape g) (each : ∀ name, Verbatim shapes (shapes name) (rules name))
    (sound : state.Sound input) :
    state.between? after = some (String.ofList (shape.content value)) := by
  obtain ⟨front, text, splits⟩ := sound.splits
  obtain ⟨fuel, run⟩ := replies
  have read : (g.run rules fuel).Yields fun value piece => shape.content value = piece :=
    known.yields (rules.parser_local fuel fuel) (Rules.yields_content each fuel)
  obtain ⟨piece, left, rfl, splits', same⟩ := read splits run
  rw [splits.between? splits', same]

/-- A verbatim grammar answers exactly what it consumes, from every state that runs lead to: the
characters of the value are the source from where the run has started to where it has come. So
recognising the grammar does as the grammar does, and answers that part of the source. -/
theorem verbatim_consumed (reached : Reachable input state)
    (each : ∀ name, Verbatim shapes (shapes name) (rules name)) (known : Verbatim shapes shape g) :
    (∀ value after, g.Replies rules state (.success value, after) →
      state.between? after = some (String.ofList (shape.content value))) ∧
    (∀ text after, (recognize g).Replies rules state (.success text, after) ↔
      state.between? after = some text ∧ ∃ value, g.Replies rules state (.success value, after)) ∧
    ∀ expected after, (recognize g).Replies rules state (.failure expected, after) ↔
      g.Replies rules state (.failure expected, after) := by
  have content {value after} (replies : g.Replies rules state (.success value, after)) :=
    replies.content known each reached.sound
  refine ⟨fun value after replies => content replies, fun text after => ?_, fun expected after => ?_⟩
  · rw [replies_recognize]
    constructor
    · rintro (⟨value, after, replies, ⟨⟩⟩ | ⟨_, _, _, ⟨⟩⟩)
      refine ⟨?_, value, replies⟩
      rw [content replies]
      rfl
    · rintro ⟨sliced, value, replies⟩
      exact .inl ⟨value, after, replies, by rw [sliced]; rfl⟩
  · rw [replies_recognize]
    constructor
    · rintro (⟨_, _, _, ⟨⟩⟩ | ⟨expected, after, replies, ⟨⟩⟩)
      exact replies
    · exact fun replies => .inr ⟨expected, after, replies, rfl⟩

/-- The predicate of the rule runs the rule again behind an exclamation mark. What it consumes there
is given back, and the mark is read once. -/
theorem marked_letters_consumed :
    let letter : Grammar (fun _ : Unit => String) String :=
      .notBefore (.literal "é") (.seqRight (.literal "!") (.rule ()))
    let phrase : Grammar (fun _ : Unit => String) ((List String × Char) × Unit) :=
      .seqPair (.seqPair (.many (.rule ())) (char '!')) eof
    let state : State := ⟨"aéé!", 1, some 0⟩
    let after : State := ⟨"aéé!", 6, some 5⟩
    Reachable "aéé!" state ∧
      phrase.Replies (fun _ => letter) state (.success ((["é", "é"], '!'), ()), after) ∧
      state.between? after = some "éé!" ∧
      (recognize phrase).Replies (fun _ => letter) state (.success "éé!", after) := by
  intro letter phrase state after
  have first : (Grammar.literal "a").Replies .empty (.start "aéé!") (.success "a", state) :=
    ⟨0, by decide⟩
  have reached : Reachable "aéé!" state := .step .start first
  have each : ∀ name : Unit, Verbatim (fun _ : Unit => .text) .text letter :=
    fun _ => .notBefore (.literal "é") _
  have known : Verbatim (fun _ : Unit => .text) (.pair (.pair (.list .text) .char) .unit) phrase :=
    .seqPair (.seqPair (.many (.rule ())) (verbatim_class _ _)) verbatim_eof
  have replies : phrase.Replies (fun _ => letter) state
      (.success ((["é", "é"], '!'), ()), after) := ⟨5, by decide⟩
  have consumed := verbatim_consumed reached each known
  have sliced : state.between? after = some "éé!" := consumed.1 _ after replies
  exact ⟨reached, replies, sliced, (consumed.2.1 _ after).mpr ⟨sliced, _, replies⟩⟩

end Grammar

end CommittedChoice
