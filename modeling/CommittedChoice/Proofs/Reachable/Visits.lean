import CommittedChoice.Grammar.Run

/-! The runs inside a run. Running a tree at a state enters its parts, each at a state that earlier
parts have left; a loop enters itself again after a round. Every state entered on the way is one
that complete runs lead to as well, when each is handed the state the one before it left. -/
namespace CommittedChoice

variable {ι : Type} {τ : ι → Type}

/-- States that grammar runs lead to, each from the state before, after success and failure. -/
inductive Reachable (input : String) : State → Prop where
  | start : Reachable input (.start input)
  | step {ι : Type} {τ : ι → Type} {rules : Rules τ} {α : Type} {g : Grammar τ α} {state : State}
      {reply : Reply α} (before : Reachable input state) (replies : g.Replies rules state reply) :
      Reachable input reply.2

namespace Grammar

/-- Running the first tree at the first state runs the second tree at the second state, as one of
its parts or as the rest of its loop. -/
inductive Enters (rules : Rules τ) : {α β : Type} →
    Grammar τ α → State → Grammar τ β → State → Prop where
  | literal {text : String} {char : Char} {chars : List Char} {state : State}
      (spelled : text.toList = char :: chars) (matched : state.peek = some char) :
      Enters rules (.literal text) state (.literal (String.ofList chars)) state.advance
  | map {α β : Type} {f : α → β} {g : Grammar τ α} {state : State} :
      Enters rules (.map f g) state g state
  | bind {α β : Type} {g : Grammar τ α} {next : α → Grammar τ β} {state : State} :
      Enters rules (.bind g next) state g state
  | bindNext {α β : Type} {g : Grammar τ α} {next : α → Grammar τ β} {state after : State}
      {value : α} (first : g.Replies rules state (.success value, after)) :
      Enters rules (.bind g next) state (next value) after
  | seqRight {α β : Type} {g : Grammar τ α} {h : Grammar τ β} {state : State} :
      Enters rules (.seqRight g h) state g state
  | seqRightNext {α β : Type} {g : Grammar τ α} {h : Grammar τ β} {state after : State} {value : α}
      (first : g.Replies rules state (.success value, after)) :
      Enters rules (.seqRight g h) state h after
  | seqLeft {α β : Type} {g : Grammar τ α} {h : Grammar τ β} {state : State} :
      Enters rules (.seqLeft g h) state g state
  | seqLeftNext {α β : Type} {g : Grammar τ α} {h : Grammar τ β} {state after : State} {value : α}
      (first : g.Replies rules state (.success value, after)) :
      Enters rules (.seqLeft g h) state h after
  | seqPair {α β : Type} {g : Grammar τ α} {h : Grammar τ β} {state : State} :
      Enters rules (.seqPair g h) state g state
  | seqPairNext {α β : Type} {g : Grammar τ α} {h : Grammar τ β} {state after : State} {value : α}
      (first : g.Replies rules state (.success value, after)) :
      Enters rules (.seqPair g h) state h after
  | opening {α β γ : Type} {o : Grammar τ α} {c : Grammar τ β} {g : Grammar τ γ} {state : State} :
      Enters rules (.between o c g) state o state
  | content {α β γ : Type} {o : Grammar τ α} {c : Grammar τ β} {g : Grammar τ γ}
      {state inside : State} {opened : α} (first : o.Replies rules state (.success opened, inside)) :
      Enters rules (.between o c g) state g inside
  | closing {α β γ : Type} {o : Grammar τ α} {c : Grammar τ β} {g : Grammar τ γ}
      {state inside after : State} {opened : α} {value : γ}
      (first : o.Replies rules state (.success opened, inside))
      (second : g.Replies rules inside (.success value, after)) :
      Enters rules (.between o c g) state c after
  | recognize {α : Type} {g : Grammar τ α} {state : State} :
      Enters rules (.recognize g) state g state
  | orElse {α : Type} {g h : Grammar τ α} {state : State} :
      Enters rules (.orElse g h) state g state
  | orElseNext {α : Type} {g h : Grammar τ α} {state after : State} {expected : Expected}
      (first : g.Replies rules state (.failure expected, after))
      (clean : after.cursor = state.cursor) : Enters rules (.orElse g h) state h after
  | choice {α : Type} {n : Nat} {alternatives : Fin (n + 1) → Grammar τ α} {state : State} :
      Enters rules (.choice alternatives) state (alternatives 0) state
  | choiceNext {α : Type} {n : Nat} {alternatives : Fin (n + 1) → Grammar τ α}
      {state after : State} {expected : Expected}
      (first : (alternatives 0).Replies rules state (.failure expected, after))
      (clean : after.cursor = state.cursor) :
      Enters rules (.choice alternatives) state (.choice fun i => alternatives i.succ) after
  | attempt {α : Type} {g : Grammar τ α} {state : State} : Enters rules (.attempt g) state g state
  | lookAhead {α : Type} {g : Grammar τ α} {state : State} :
      Enters rules (.lookAhead g) state g state
  | notFollowedBy {α : Type} {g : Grammar τ α} {state : State} :
      Enters rules (.notFollowedBy g) state g state
  | label {α : Type} {text : String} {g : Grammar τ α} {state : State} :
      Enters rules (.label text g) state g state
  | option {α : Type} {default : α} {g : Grammar τ α} {state : State} :
      Enters rules (.option default g) state g state
  | optional {α : Type} {g : Grammar τ α} {state : State} : Enters rules (.optional g) state g state
  | many {α : Type} {g : Grammar τ α} {state : State} :
      Enters rules (.many g) state (.attempt g) state
  | manyNext {α : Type} {g : Grammar τ α} {state after : State} {value : α}
      (round : g.Replies rules state (.success value, after)) :
      Enters rules (.many g) state (.many g) after
  | many1 {α : Type} {g : Grammar τ α} {state : State} :
      Enters rules (.many1 g) state (.attempt g) state
  | many1Next {α : Type} {g : Grammar τ α} {state after : State} {value : α}
      (round : g.Replies rules state (.success value, after)) :
      Enters rules (.many1 g) state (.many g) after
  | terminator {α β : Type} {g : Grammar τ α} {h : Grammar τ β} {state : State} :
      Enters rules (.manyTill g h) state h state
  | manyTill {α β : Type} {g : Grammar τ α} {h : Grammar τ β} {state middle : State}
      {expected : Expected} (unended : h.Replies rules state (.failure expected, middle))
      (clean : middle.cursor = state.cursor) : Enters rules (.manyTill g h) state g middle
  | manyTillNext {α β : Type} {g : Grammar τ α} {h : Grammar τ β} {state middle after : State}
      {expected : Expected} {value : α}
      (unended : h.Replies rules state (.failure expected, middle))
      (clean : middle.cursor = state.cursor)
      (round : g.Replies rules middle (.success value, after)) :
      Enters rules (.manyTill g h) state (.manyTill g h) after
  | count {α : Type} [Stored α] {times : Nat} {g : Grammar τ α} {state : State}
      (room : Reservable α (times + 1)) : Enters rules (.count (times + 1) g) state g state
  | countNext {α : Type} [Stored α] {times : Nat} {g : Grammar τ α} {state after : State}
      {value : α} (room : Reservable α (times + 1))
      (round : g.Replies rules state (.success value, after)) :
      Enters rules (.count (times + 1) g) state (.count times g) after
  | sepBy {α β : Type} {item : Grammar τ α} {separator : Grammar τ β} {state : State} :
      Enters rules (.sepBy item separator) state (.attempt item) state
  | sepByNext {α β : Type} {item : Grammar τ α} {separator : Grammar τ β} {state after : State}
      {value : α} (round : item.Replies rules state (.success value, after)) :
      Enters rules (.sepBy item separator) state (.many (.seqRight separator item)) after
  | sepBy1 {α β : Type} {item : Grammar τ α} {separator : Grammar τ β} {state : State} :
      Enters rules (.sepBy1 item separator) state (.attempt item) state
  | sepBy1Next {α β : Type} {item : Grammar τ α} {separator : Grammar τ β} {state after : State}
      {value : α} (round : item.Replies rules state (.success value, after)) :
      Enters rules (.sepBy1 item separator) state (.many (.seqRight separator item)) after
  | endBy {α β : Type} {item : Grammar τ α} {separator : Grammar τ β} {state : State} :
      Enters rules (.endBy item separator) state (.many (.seqLeft item separator)) state
  | endBy1 {α β : Type} {item : Grammar τ α} {separator : Grammar τ β} {state : State} :
      Enters rules (.endBy1 item separator) state (.many1 (.seqLeft item separator)) state
  | sepEndBy {α β : Type} {item : Grammar τ α} {separator : Grammar τ β} {state : State} :
      Enters rules (.sepEndBy item separator) state (.attempt item) state
  | sepEndBySeparator {α β : Type} {item : Grammar τ α} {separator : Grammar τ β}
      {state middle : State} {value : α} (round : item.Replies rules state (.success value, middle)) :
      Enters rules (.sepEndBy item separator) state (.attempt separator) middle
  | sepEndByNext {α β : Type} {item : Grammar τ α} {separator : Grammar τ β}
      {state middle after : State} {value : α} {separated : β}
      (round : item.Replies rules state (.success value, middle))
      (further : separator.Replies rules middle (.success separated, after)) :
      Enters rules (.sepEndBy item separator) state (.sepEndBy item separator) after
  | sepEndBy1 {α β : Type} {item : Grammar τ α} {separator : Grammar τ β} {state : State} :
      Enters rules (.sepEndBy1 item separator) state (.attempt item) state
  | sepEndBy1Separator {α β : Type} {item : Grammar τ α} {separator : Grammar τ β}
      {state middle : State} {value : α} (round : item.Replies rules state (.success value, middle)) :
      Enters rules (.sepEndBy1 item separator) state (.attempt separator) middle
  | sepEndBy1Next {α β : Type} {item : Grammar τ α} {separator : Grammar τ β}
      {state middle after : State} {value : α} {separated : β}
      (round : item.Replies rules state (.success value, middle))
      (further : separator.Replies rules middle (.success separated, after)) :
      Enters rules (.sepEndBy1 item separator) state (.sepEndBy item separator) after
  | later {α : Type} {build : Unit → Grammar τ α} {state : State} :
      Enters rules (.later build) state (build ()) state
  | rule {name : ι} {state : State} : Enters rules (.rule name) state (rules name) state

/-- The second tree is run at the second state somewhere within running the first at the first. -/
inductive Visits (rules : Rules τ) : {α β : Type} →
    Grammar τ α → State → Grammar τ β → State → Prop where
  | here {α : Type} {g : Grammar τ α} {state : State} : Visits rules g state g state
  | inside {α β γ : Type} {g : Grammar τ α} {h : Grammar τ β} {k : Grammar τ γ}
      {state middle final : State} (entered : Enters rules g state h middle)
      (others : Visits rules h middle k final) : Visits rules g state k final

variable {rules : Rules τ} {α β : Type} {g : Grammar τ α} {h : Grammar τ β} {input : String}
  {state inner : State}

theorem Enters.reachable (entered : Enters rules g state h inner)
    (reached : Reachable input state) : Reachable input inner := by
  cases entered with
  | literal =>
    have advanced : (Grammar.consumeOne : Grammar τ Unit).Replies rules state
        (.success (), state.advance) := ⟨0, rfl⟩
    exact reached.step advanced
  | bindNext first | seqRightNext first | seqLeftNext first | seqPairNext first | content first =>
    exact reached.step first
  | closing first second => exact (reached.step first).step second
  | orElseNext first | choiceNext first => exact reached.step first
  | manyNext round | many1Next round | countNext _ round | sepByNext round | sepBy1Next round =>
    exact reached.step round
  | manyTill unended => exact reached.step unended
  | manyTillNext unended _ round => exact (reached.step unended).step round
  | sepEndBySeparator round | sepEndBy1Separator round => exact reached.step round
  | sepEndByNext round further | sepEndBy1Next round further =>
    exact (reached.step round).step further
  | _ => exact reached

theorem Visits.reachable (visits : Visits rules g state h inner)
    (reached : Reachable input state) : Reachable input inner := by
  induction visits with
  | here => exact reached
  | inside entered _ ih => exact ih (entered.reachable reached)

end Grammar

end CommittedChoice
