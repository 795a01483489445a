import CommittedChoice.Grammar.Run

/-! Grammars read as parsing expressions. An expression looks at the text before it and at nothing
else: it matches with a value and leaves a rest, or it does not match. There is no cursor, nothing
is consumed and no choice is committed to. The outer `none` is a match that has not ended within
the bounds it was given or was broken off, as it is for parsers. -/
namespace CommittedChoice

/-- A value and the text that is left, or no match. -/
abbrev Match (α : Type) : Type := Option (α × List Char)

def Matcher (α : Type) : Type := List Char → Option (Match α)

namespace Matcher

variable {α β γ : Type}

def pure (value : α) : Matcher α := fun text => some (some (value, text))

def reject : Matcher α := fun _ => some none

def readChar : Matcher Char := fun text => some (text.head?.map fun char => (char, text))

/-- Takes a character where there is one, and matches at the end too. -/
def consumeOne : Matcher Unit := fun text => some (some ((), text.tail))

def satisfy (accepts : Char → Bool) : Matcher Char
  | [] => some none
  | char :: text => some (if accepts char then some (char, text) else none)

def literal (spelled : String) : Matcher String := fun text =>
  some (if spelled.toList <+: text then some (spelled, text.drop spelled.toList.length) else none)

def bind (matcher : Matcher α) (next : α → Matcher β) : Matcher β := fun text => do
  match ← matcher text with
  | some (value, left) => next value left
  | none => some none

def map (f : α → β) (matcher : Matcher α) : Matcher β :=
  matcher.bind fun value => pure (f value)

def seqRight (first : Matcher α) (second : Matcher β) : Matcher β := first.bind fun _ => second

def seqLeft (first : Matcher α) (second : Matcher β) : Matcher α :=
  first.bind fun value => second.map fun _ => value

def seqPair (first : Matcher α) (second : Matcher β) : Matcher (α × β) :=
  first.bind fun value => second.map fun other => (value, other)

/-- Answers the text that was matched. -/
def recognize (matcher : Matcher α) : Matcher String := fun text => do
  match ← matcher text with
  | some (_, left) => some (some (String.ofList (text.take (text.length - left.length)), left))
  | none => some none

/-- Ordered choice: the second is asked where the first does not match. -/
def orElse (first second : Matcher α) : Matcher α := fun text => do
  match ← first text with
  | some found => some (some found)
  | none => second text

def choice (matchers : List (Matcher α)) : Matcher α := matchers.foldr orElse reject

/-- The positive predicate. -/
def lookAhead (matcher : Matcher α) : Matcher α := fun text => do
  match ← matcher text with
  | some (value, _) => some (some (value, text))
  | none => some none

/-- The negative predicate. -/
def notFollowedBy (matcher : Matcher α) : Matcher Unit := fun text => do
  match ← matcher text with
  | some _ => some none
  | none => some (some ((), text))

def option (default : α) (matcher : Matcher α) : Matcher α := matcher.orElse (pure default)

def optional (matcher : Matcher α) : Matcher Unit := (matcher.map fun _ => ()).option ()

/-- A value and the values of a list after it. -/
def cons (first : Matcher α) (others : Matcher (List α)) : Matcher (List α) :=
  first.bind fun value => others.map (value :: ·)

/-- Greedy repetition: one more and then the others, or nothing. -/
def many (matcher : Matcher α) : Nat → Matcher (List α)
  | 0 => fun _ => none
  | limit + 1 => (matcher.cons (matcher.many limit)).option []

def many1 (limit : Nat) (matcher : Matcher α) : Matcher (List α) :=
  matcher.cons (matcher.many limit)

/-- The terminator, or an item and then the others. -/
def manyTill (matcher : Matcher α) (terminator : Matcher β) : Nat → Matcher (List α)
  | 0 => fun _ => none
  | limit + 1 =>
    (terminator.map fun _ => []).orElse (matcher.cons (matcher.manyTill terminator limit))

def replicate (matcher : Matcher α) : Nat → Matcher (List α)
  | 0 => pure []
  | times + 1 => matcher.cons (matcher.replicate times)

def broken : Matcher α := fun _ => none

/-- Exactly so many, when there is room for a list of them. -/
def count [Stored α] (matcher : Matcher α) (times : Nat) : Matcher (List α) :=
  if Reservable α times then matcher.replicate times else broken

def sepBy1 (limit : Nat) (item : Matcher α) (separator : Matcher β) : Matcher (List α) :=
  item.cons ((separator.seqRight item).many limit)

def sepBy (limit : Nat) (item : Matcher α) (separator : Matcher β) : Matcher (List α) :=
  (sepBy1 limit item separator).option []

/-- What follows an item: a separator, and after it another item with what follows it. Both are
optional. -/
def sepEnd (item : Matcher α) (separator : Matcher β) : Nat → Matcher (List α)
  | 0 => fun _ => none
  | limit + 1 =>
    (separator.seqRight ((item.cons (item.sepEnd separator limit)).option [])).option []

def sepEndBy1 (limit : Nat) (item : Matcher α) (separator : Matcher β) : Matcher (List α) :=
  item.cons (item.sepEnd separator limit)

def sepEndBy (limit : Nat) (item : Matcher α) (separator : Matcher β) : Matcher (List α) :=
  (sepEndBy1 limit item separator).option []

variable {matcher : Matcher α} {next : α → Matcher β} {text : List Char}

theorem map_map (f : α → β) (g : β → γ) (matcher : Matcher α) :
    (matcher.map f).map g = matcher.map fun value => g (f value) := by
  funext text
  rcases found : matcher text with _ | _ | ⟨value, left⟩ <;> simp [map, bind, pure, found]

theorem map_id (matcher : Matcher α) : (matcher.map fun value => value) = matcher := by
  funext text
  rcases found : matcher text with _ | _ | ⟨value, left⟩ <;> simp [map, bind, pure, found]

theorem map_bind (next : α → Matcher β) (f : β → γ) (matcher : Matcher α) :
    (matcher.bind next).map f = matcher.bind fun value => (next value).map f := by
  funext text
  rcases found : matcher text with _ | _ | ⟨value, left⟩ <;> simp [map, bind, found]

theorem map_orElse (first second : Matcher α) (f : α → β) :
    (first.orElse second).map f = (first.map f).orElse (second.map f) := by
  funext text
  rcases found : first text with _ | _ | ⟨value, left⟩ <;>
    simp [map, bind, pure, orElse, found]

theorem orElse_map (f : α → β) (second : Matcher β) :
    (matcher.map f).orElse second text = (do
      match ← matcher text with
      | some (value, left) => some (some (f value, left))
      | none => second text) := by
  rcases found : matcher text with _ | _ | ⟨value, left⟩ <;>
    simp [map, bind, pure, orElse, found]

theorem map_option (default : α) (matcher : Matcher α) (f : α → β) :
    (matcher.option default).map f = (matcher.map f).option (f default) :=
  map_orElse matcher (pure default) f

/-- Values gathered before a list stand before the values of the list. -/
theorem map_cons (first : Matcher α) (others : Matcher (List α)) (taken : List α) :
    (first.cons others).map (taken.reverse ++ ·) =
      first.bind fun value => others.map ((value :: taken).reverse ++ ·) := by
  simp only [cons, map_bind, map_map, List.reverse_cons, List.append_assoc, List.singleton_append]

/-- An expression that matches every text on which it ends. -/
def Sure (matcher : Matcher α) : Prop := ∀ text, matcher text ≠ some none

theorem Sure.map (f : α → β) (sure : matcher.Sure) : (matcher.map f).Sure := by
  intro text none_found
  rcases found : matcher text with _ | _ | ⟨value, left⟩
  · simp [Matcher.map, bind, found] at none_found
  · exact sure text found
  · simp [Matcher.map, bind, pure, found] at none_found

theorem sure_option (default : α) (matcher : Matcher α) : (matcher.option default).Sure := by
  intro text none_found
  rcases found : matcher text with _ | _ | ⟨value, left⟩ <;>
    simp [option, orElse, pure, found] at none_found

theorem sure_many (matcher : Matcher α) (limit : Nat) : (matcher.many limit).Sure := by
  cases limit with
  | zero => exact nofun
  | succ limit => exact sure_option [] _

theorem sure_sepEnd (item : Matcher α) (separator : Matcher β) (limit : Nat) :
    (item.sepEnd separator limit).Sure := by
  cases limit with
  | zero => exact nofun
  | succ limit => exact sure_option [] _

/-- Where what follows is sure to match, the default stands for the first part alone. -/
theorem option_bind (default : β) (sure : ∀ value, (next value).Sure) :
    (matcher.bind next).option default text = (do
      match ← matcher text with
      | some (value, left) => next value left
      | none => some (some (default, text))) := by
  rcases found : matcher text with _ | _ | ⟨value, left⟩
  · simp [option, orElse, bind, found]
  · simp [option, orElse, bind, pure, found]
  · rcases found' : next value left with _ | _ | ⟨other, rest⟩
    · simp [option, orElse, bind, found, found']
    · exact absurd found' (sure value left)
    · simp [option, orElse, bind, found, found']

end Matcher

variable {ι : Type} {τ : ι → Type}

namespace Grammar

/-- The expression a tree stands for. Labels say nothing here, and neither does `attempt`: an
expression that does not match has taken nothing. -/
def matcher (call : (name : ι) → Matcher (τ name)) (limit : Nat) :
    {α : Type} → Grammar τ α → Matcher α
  | _, .pure value => .pure value
  | _, .fail _ => .reject
  | _, .readChar => .readChar
  | _, .consumeOne => .consumeOne
  | _, .satisfy accepts => .satisfy accepts
  | _, .literal text => .literal text
  | _, .map f g => .map f (g.matcher call limit)
  | _, .bind g next => .bind (g.matcher call limit) fun value => (next value).matcher call limit
  | _, .seqRight first second => .seqRight (first.matcher call limit) (second.matcher call limit)
  | _, .seqLeft first second => .seqLeft (first.matcher call limit) (second.matcher call limit)
  | _, .seqPair first second => .seqPair (first.matcher call limit) (second.matcher call limit)
  | _, .between opening closing g =>
    .seqRight (opening.matcher call limit)
      (.seqLeft (g.matcher call limit) (closing.matcher call limit))
  | _, .recognize g => .recognize (g.matcher call limit)
  | _, .orElse first second => .orElse (first.matcher call limit) (second.matcher call limit)
  | _, .choice alternatives =>
    .choice (List.ofFn fun i => (alternatives i).matcher call limit)
  | _, .attempt g => g.matcher call limit
  | _, .lookAhead g => .lookAhead (g.matcher call limit)
  | _, .notFollowedBy g => .notFollowedBy (g.matcher call limit)
  | _, .label _ g => g.matcher call limit
  | _, .option default g => .option default (g.matcher call limit)
  | _, .optional g => .optional (g.matcher call limit)
  | _, .many g => (g.matcher call limit).many limit
  | _, .many1 g => .many1 limit (g.matcher call limit)
  | _, .manyTill g terminator =>
    (g.matcher call limit).manyTill (terminator.matcher call limit) limit
  | _, @count _ _ _ _ times g => (g.matcher call limit).count times
  | _, .sepBy item separator =>
    .sepBy limit (item.matcher call limit) (separator.matcher call limit)
  | _, .sepBy1 item separator =>
    .sepBy1 limit (item.matcher call limit) (separator.matcher call limit)
  | _, .endBy item separator =>
    ((item.matcher call limit).seqLeft (separator.matcher call limit)).many limit
  | _, .endBy1 item separator =>
    .many1 limit ((item.matcher call limit).seqLeft (separator.matcher call limit))
  | _, .sepEndBy item separator =>
    .sepEndBy limit (item.matcher call limit) (separator.matcher call limit)
  | _, .sepEndBy1 item separator =>
    .sepEndBy1 limit (item.matcher call limit) (separator.matcher call limit)
  | _, .later build => (build ()).matcher call limit
  | _, .rule name => call name

end Grammar

/-- The expression of a rule that may enter rules to the given depth. -/
def Rules.matcher (rules : Rules τ) (limit : Nat) : Nat → (name : ι) → Matcher (τ name)
  | 0, _ => fun _ => none
  | depth + 1, name => (rules name).matcher (rules.matcher limit depth) limit

/-- The grammar as an expression matches the text with this result, or ends without a match. -/
def Grammar.Matches {α : Type} (rules : Rules τ) (g : Grammar τ α) (text : List Char)
    (result : Match α) : Prop :=
  ∃ fuel, g.matcher (rules.matcher fuel fuel) fuel text = some result

end CommittedChoice
