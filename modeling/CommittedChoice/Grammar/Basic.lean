import CommittedChoice.Parser.Separated

/-! Grammars are trees of parser combinators, one constructor for each combinator. `τ` tells what
each named rule yields, and `rule` refers to one; the meaning of the rules is given where a tree
is turned into a parser. -/
namespace CommittedChoice

inductive Grammar {ι : Type} (τ : ι → Type) : Type → Type 1 where
  | pure {α : Type} (value : α) : Grammar τ α
  | fail {α : Type} (expected : Expected) : Grammar τ α
  | readChar : Grammar τ Char
  | consumeOne : Grammar τ Unit
  | satisfy (accepts : Char → Bool) : Grammar τ Char
  | literal (text : String) : Grammar τ String
  | map {α β : Type} (f : α → β) (g : Grammar τ α) : Grammar τ β
  | bind {α β : Type} (g : Grammar τ α) (next : α → Grammar τ β) : Grammar τ β
  | seqRight {α β : Type} (first : Grammar τ α) (second : Grammar τ β) : Grammar τ β
  | seqLeft {α β : Type} (first : Grammar τ α) (second : Grammar τ β) : Grammar τ α
  | seqPair {α β : Type} (first : Grammar τ α) (second : Grammar τ β) : Grammar τ (α × β)
  | between {α β γ : Type} (opening : Grammar τ α) (closing : Grammar τ β) (g : Grammar τ γ) :
      Grammar τ γ
  | recognize {α : Type} (g : Grammar τ α) : Grammar τ String
  | orElse {α : Type} (first second : Grammar τ α) : Grammar τ α
  | choice {α : Type} {n : Nat} (alternatives : Fin n → Grammar τ α) : Grammar τ α
  | attempt {α : Type} (g : Grammar τ α) : Grammar τ α
  | lookAhead {α : Type} (g : Grammar τ α) : Grammar τ α
  | notFollowedBy {α : Type} (g : Grammar τ α) : Grammar τ Unit
  | label {α : Type} (text : String) (g : Grammar τ α) : Grammar τ α
  | option {α : Type} (default : α) (g : Grammar τ α) : Grammar τ α
  | optional {α : Type} (g : Grammar τ α) : Grammar τ Unit
  | many {α : Type} (g : Grammar τ α) : Grammar τ (List α)
  | many1 {α : Type} (g : Grammar τ α) : Grammar τ (List α)
  | manyTill {α β : Type} (g : Grammar τ α) (terminator : Grammar τ β) : Grammar τ (List α)
  | count {α : Type} [Stored α] (times : Nat) (g : Grammar τ α) : Grammar τ (List α)
  | sepBy {α β : Type} (item : Grammar τ α) (separator : Grammar τ β) : Grammar τ (List α)
  | sepBy1 {α β : Type} (item : Grammar τ α) (separator : Grammar τ β) : Grammar τ (List α)
  | endBy {α β : Type} (item : Grammar τ α) (separator : Grammar τ β) : Grammar τ (List α)
  | endBy1 {α β : Type} (item : Grammar τ α) (separator : Grammar τ β) : Grammar τ (List α)
  | sepEndBy {α β : Type} (item : Grammar τ α) (separator : Grammar τ β) : Grammar τ (List α)
  | sepEndBy1 {α β : Type} (item : Grammar τ α) (separator : Grammar τ β) : Grammar τ (List α)
  /-- The tree is built when it is run. -/
  | later {α : Type} (build : Unit → Grammar τ α) : Grammar τ α
  | rule (name : ι) : Grammar τ (τ name)

namespace Grammar

variable {ι : Type} {τ : ι → Type}

/-- Ordered choice from a list. -/
def choiceOf {α : Type} (alternatives : List (Grammar τ α)) : Grammar τ α :=
  .choice alternatives.get

/-- The parser a tree stands for, when `call` runs the rules and no loop may take more than
`limit` rounds. -/
def parser (call : (name : ι) → Parser (τ name)) (limit : Nat) :
    {α : Type} → Grammar τ α → Parser α
  | _, .pure value => .pure value
  | _, .fail expected => .fail expected
  | _, .readChar => .readChar
  | _, .consumeOne => .consumeOne
  | _, .satisfy accepts => .satisfy accepts
  | _, .literal text => .literal text
  | _, .map f g => .map f (g.parser call limit)
  | _, .bind g next => .bind (g.parser call limit) fun value => (next value).parser call limit
  | _, .seqRight first second => .seqRight (first.parser call limit) (second.parser call limit)
  | _, .seqLeft first second => .seqLeft (first.parser call limit) (second.parser call limit)
  | _, .seqPair first second => .seqPair (first.parser call limit) (second.parser call limit)
  | _, .between opening closing g =>
    .between (opening.parser call limit) (closing.parser call limit) (g.parser call limit)
  | _, .recognize g => .recognize (g.parser call limit)
  | _, .orElse first second => .orElse (first.parser call limit) (second.parser call limit)
  | _, .choice alternatives =>
    .choice (List.ofFn fun i => (alternatives i).parser call limit)
  | _, .attempt g => .attempt (g.parser call limit)
  | _, .lookAhead g => .lookAhead (g.parser call limit)
  | _, .notFollowedBy g => .notFollowedBy (g.parser call limit)
  | _, .label text g => .label text (g.parser call limit)
  | _, .option default g => .option default (g.parser call limit)
  | _, .optional g => .optional (g.parser call limit)
  | _, .many g => .many limit (g.parser call limit)
  | _, .many1 g => .many1 limit (g.parser call limit)
  | _, .manyTill g terminator =>
    .manyTill limit (g.parser call limit) (terminator.parser call limit)
  | _, @count _ _ _ _ times g => .count times (g.parser call limit)
  | _, .sepBy item separator =>
    .sepBy limit (item.parser call limit) (separator.parser call limit)
  | _, .sepBy1 item separator =>
    .sepBy1 limit (item.parser call limit) (separator.parser call limit)
  | _, .endBy item separator =>
    .endBy limit (item.parser call limit) (separator.parser call limit)
  | _, .endBy1 item separator =>
    .endBy1 limit (item.parser call limit) (separator.parser call limit)
  | _, .sepEndBy item separator =>
    .sepEndBy limit (item.parser call limit) (separator.parser call limit)
  | _, .sepEndBy1 item separator =>
    .sepEndBy1 limit (item.parser call limit) (separator.parser call limit)
  | _, .later build => (build ()).parser call limit
  | _, .rule name => call name

/-- A list of alternatives is tried from its first to its last. -/
theorem parser_choiceOf {α : Type} {call : (name : ι) → Parser (τ name)} {limit : Nat}
    (alternatives : List (Grammar τ α)) :
    (choiceOf alternatives).parser call limit =
      .choice (alternatives.map fun g => g.parser call limit) := by
  show Parser.choice (List.ofFn fun i => (alternatives.get i).parser call limit) = _
  exact congrArg Parser.choice (List.ext_getElem (by simp) (by simp))

end Grammar

end CommittedChoice
