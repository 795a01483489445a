import CommittedChoice.Grammar.Limit

/-! Items and separators are run in turn until a run fails. What the separated lists answer is read
off that one course: how many of its values they keep, and up to which of its runs they consume. -/
namespace CommittedChoice

variable {ι : Type} {τ : ι → Type} {α β : Type}

/-- An item and the separator after it, with the states that the two runs left. -/
structure Round (α : Type) where
  value : α
  item : State
  separator : State

/-- The complete rounds and the run that has failed. That run was a separator when there is an item
after the last complete round, and an item when there is none. -/
structure Course (α : Type) where
  rounds : List (Round α)
  last : Option (α × State)
  expected : Expected
  left : State

/-- Items and separators run in turn, each from the state that the one before it left. -/
inductive Alternates (item : State → Reply α → Prop) (separator : State → Reply β → Prop) :
    State → Course α → Prop where
  | itemFails {start left : State} {expected : Expected}
      (failed : item start (.failure expected, left)) :
      Alternates item separator start ⟨[], none, expected, left⟩
  | separatorFails {start middle left : State} {value : α} {expected : Expected}
      (succeeded : item start (.success value, middle))
      (failed : separator middle (.failure expected, left)) :
      Alternates item separator start ⟨[], some (value, middle), expected, left⟩
  | round {start middle next left : State} {value : α} {other : β} {rounds : List (Round α)}
      {last : Option (α × State)} {expected : Expected}
      (succeeded : item start (.success value, middle))
      (separated : separator middle (.success other, next))
      (others : Alternates item separator next ⟨rounds, last, expected, left⟩) :
      Alternates item separator start ⟨⟨value, middle, next⟩ :: rounds, last, expected, left⟩

namespace Course

variable (course : Course α) (start : State)

/-- The items that had a separator after them: all of them when an item has failed, and all but
the last when a separator has. -/
def separated : List α := course.rounds.map Round.value

def values : List α := course.separated ++ course.last.toList.map Prod.fst

/-- The state after the last separator, or the start. -/
def afterSeparator : State := (course.rounds.getLast?.map Round.separator).getD start

/-- The state after the last item, or the start. -/
def afterItem : State :=
  (course.last.map Prod.snd).getD ((course.rounds.getLast?.map Round.item).getD start)

/-- The state after the last run that succeeded, or the start. -/
def afterRun : State := (course.last.map Prod.snd).getD (course.afterSeparator start)

/-- A list that may be empty: the failed run leaves its marker and not its cursor. -/
def answer (values : List α) (stop : State) : Reply (List α) :=
  (.success values, course.left.rewind stop.cursor)

/-- A list that may not be empty answers the failed run in place of the empty list. -/
def answer1 (values : List α) (stop : State) : Reply (List α) :=
  match values with
  | [] => (.failure course.expected, course.left.rewind start.cursor)
  | _ :: _ => course.answer values stop

variable {rounds : List (Round α)} {last : Option (α × State)} {expected : Expected} {left : State}
  {round : Round α}

theorem afterSeparator_cons :
    afterSeparator ⟨round :: rounds, last, expected, left⟩ start =
      afterSeparator ⟨rounds, last, expected, left⟩ round.separator :=
  getLast?_cons_getD Round.separator round rounds start

theorem afterItem_cons :
    afterItem ⟨round :: rounds, last, expected, left⟩ start =
      afterItem ⟨rounds, last, expected, left⟩ round.item :=
  congrArg (last.map Prod.snd).getD (getLast?_cons_getD Round.item round rounds start)

theorem afterRun_cons :
    afterRun ⟨round :: rounds, last, expected, left⟩ start =
      afterRun ⟨rounds, last, expected, left⟩ round.separator :=
  congrArg (last.map Prod.snd).getD (afterSeparator_cons start)

end Course

namespace Grammar

variable {rules : Rules τ} {item : Grammar τ α} {separator : Grammar τ β} {start before : State}
  {course : Course α} {other : β}

/-- An item and the separator after it succeed together as long as the rounds are complete. -/
theorem chain_seqLeft
    (alternates : Alternates (item.Replies rules) (separator.Replies rules) start course) :
    Chain (Succeeds ((item.seqLeft separator).Replies rules)) start course.separated
        (course.afterSeparator start) ∧
      (item.seqLeft separator).Replies rules (course.afterSeparator start)
        (.failure course.expected, course.left) := by
  induction alternates with
  | itemFails failed =>
    exact ⟨.nil, replies_seqLeft.mpr (replies_bind.mpr (.inr ⟨_, _, failed, rfl⟩))⟩
  | separatorFails succeeded failed =>
    refine ⟨.nil, replies_seqLeft.mpr (replies_bind.mpr (.inl ⟨_, _, succeeded, ?_⟩))⟩
    exact replies_map.mpr (.inr ⟨_, _, failed, rfl⟩)
  | round succeeded separated _ ih =>
    rw [Course.afterSeparator_cons]
    refine ⟨.cons ?_ ih.1, ih.2⟩
    refine replies_seqLeft.mpr (replies_bind.mpr (.inl ⟨_, _, succeeded, ?_⟩))
    exact replies_map.mpr (.inl ⟨_, _, separated, rfl⟩)

/-- A separator and the item after it succeed together as long as items come. -/
theorem chain_seqRight (separated : separator.Replies rules before (.success other, start))
    (alternates : Alternates (item.Replies rules) (separator.Replies rules) start course) :
    Chain (Succeeds ((separator.seqRight item).Replies rules)) before course.values
        (course.afterItem before) ∧
      (separator.seqRight item).Replies rules (course.afterItem before)
        (.failure course.expected, course.left) := by
  induction alternates generalizing before other with
  | itemFails failed =>
    refine ⟨.nil, replies_seqRight.mpr (replies_bind.mpr (.inl ⟨_, _, separated, failed⟩))⟩
  | separatorFails succeeded failed =>
    refine ⟨.cons ?_ .nil, replies_seqRight.mpr (replies_bind.mpr (.inr ⟨_, _, failed, rfl⟩))⟩
    exact replies_seqRight.mpr (replies_bind.mpr (.inl ⟨_, _, separated, succeeded⟩))
  | round succeeded separated' _ ih =>
    rw [Course.afterItem_cons]
    refine ⟨.cons ?_ (ih separated').1, (ih separated').2⟩
    exact replies_seqRight.mpr (replies_bind.mpr (.inl ⟨_, _, separated, succeeded⟩))

/-- The run that has failed is given back to where it started, behind a separator that stays. -/
theorem exhaustsAfter_of_alternates
    (separated : separator.Replies rules before (.success other, start))
    (alternates : Alternates (item.Replies rules) (separator.Replies rules) start course)
    (values : List α) :
    ExhaustsAfter (item.Replies rules) (separator.Replies rules) (course.afterItem before) values
      (course.answer values (course.afterRun start)) := by
  induction alternates generalizing before other with
  | itemFails failed =>
    -- The separator before the course stays where no item follows it.
    exact .inr ⟨other, _, separated, _, _, failed, rfl⟩
  | separatorFails _ failed => exact .inl ⟨_, _, failed, rfl⟩
  | round _ separated' _ ih =>
    rw [Course.afterItem_cons, Course.afterRun_cons]
    exact ih separated'

/-- A course without a first item has failed there; any other has a list after its first item. -/
theorem first_of_alternates
    (alternates : Alternates (item.Replies rules) (separator.Replies rules) start course) :
    (item.Replies rules start (.failure course.expected, course.left) ∧ course.values = [] ∧
      course.afterItem start = start ∧ course.afterRun start = start) ∨
    ∃ value values middle, item.Replies rules start (.success value, middle) ∧
      course.values = value :: values ∧
      Chain (Succeeds ((separator.seqRight item).Replies rules)) middle values
        (course.afterItem start) ∧
      (separator.seqRight item).Replies rules (course.afterItem start)
        (.failure course.expected, course.left) ∧
      ExhaustsAfter (item.Replies rules) (separator.Replies rules) (course.afterItem start)
        course.values (course.answer course.values (course.afterRun start)) := by
  cases alternates with
  | itemFails failed => exact .inl ⟨failed, rfl, rfl, rfl⟩
  | @separatorFails _ middle _ value _ succeeded failed =>
    refine .inr ⟨value, [], middle, succeeded, rfl, .nil, ?_, .inl ⟨_, _, failed, rfl⟩⟩
    exact replies_seqRight.mpr (replies_bind.mpr (.inr ⟨_, _, failed, rfl⟩))
  | @round _ middle _ _ value _ _ _ _ succeeded separated others =>
    obtain ⟨chain, failed⟩ := chain_seqRight separated others
    rw [Course.afterItem_cons, Course.afterRun_cons]
    exact .inr ⟨value, _, middle, succeeded, rfl, chain, failed,
      exhaustsAfter_of_alternates separated others _⟩

theorem separated_of_alternates
    (alternates : Alternates (item.Replies rules) (separator.Replies rules) start course) :
    ((sepBy item separator).Replies rules start
        (course.answer course.values (course.afterItem start)) ∧
      (sepEndBy item separator).Replies rules start
        (course.answer course.values (course.afterRun start))) ∧
    (sepBy1 item separator).Replies rules start
        (course.answer1 start course.values (course.afterItem start)) ∧
      (sepEndBy1 item separator).Replies rules start
        (course.answer1 start course.values (course.afterRun start)) := by
  rcases first_of_alternates alternates with ⟨failed, empty, item_eq, run_eq⟩ |
    ⟨value, values, middle, succeeded, listed, chain, failed, exhausts⟩
  · rw [empty, item_eq, run_eq]
    exact ⟨⟨replies_sepBy.mpr (.inr ⟨_, _, failed, rfl⟩),
      replies_sepEndBy.mpr (.inr ⟨_, _, failed, rfl⟩)⟩,
      replies_sepBy1.mpr (.inr ⟨_, _, failed, rfl⟩),
      replies_sepEndBy1.mpr (.inr ⟨_, _, failed, rfl⟩)⟩
  · rw [listed] at exhausts ⊢
    have gathered : ∃ values' last,
        Chain (Succeeds ((separator.seqRight item).Replies rules)) middle values' last ∧
        Exhausts ((separator.seqRight item).Replies rules) last (value :: values')
          (course.answer (value :: values) (course.afterItem start)) :=
      ⟨values, _, chain, _, _, failed, rfl⟩
    exact ⟨⟨replies_sepBy.mpr (.inl ⟨value, middle, succeeded, gathered⟩),
      replies_sepEndBy.mpr (.inl ⟨value, middle, succeeded, values, _, chain, exhausts⟩)⟩,
      replies_sepBy1.mpr (.inl ⟨value, middle, succeeded, gathered⟩),
      replies_sepEndBy1.mpr (.inl ⟨value, middle, succeeded, values, _, chain, exhausts⟩)⟩

theorem ended_of_alternates
    (alternates : Alternates (item.Replies rules) (separator.Replies rules) start course) :
    (endBy item separator).Replies rules start
        (course.answer course.separated (course.afterSeparator start)) ∧
      (endBy1 item separator).Replies rules start
        (course.answer1 start course.separated (course.afterSeparator start)) := by
  obtain ⟨chain, failed⟩ := chain_seqLeft alternates
  refine ⟨replies_endBy.mpr (replies_many.mpr ⟨_, _, chain, _, _, failed, rfl⟩),
    replies_endBy1.mpr (replies_many1.mpr ?_)⟩
  -- Without a complete round the first one has failed, as a whole.
  generalize course.separated = values at chain
  generalize course.afterSeparator start = last at chain failed
  cases chain with
  | nil => exact .inr ⟨_, _, failed, rfl⟩
  | cons first others => exact .inl ⟨_, _, first, _, _, others, _, _, failed, rfl⟩

/-- Six lists, one course. Nothing is assumed of the items and separators but that one of them
fails at last: a failed run may have consumed, and a separator may match the empty text. -/
theorem lists_of_alternates (rules : Rules τ) (item : Grammar τ α) (separator : Grammar τ β)
    {start : State} {course : Course α}
    (alternates : Alternates (item.Replies rules) (separator.Replies rules) start course) :
    ((sepBy item separator).Replies rules start
        (course.answer course.values (course.afterItem start)) ∧
      (sepEndBy item separator).Replies rules start
        (course.answer course.values (course.afterRun start)) ∧
      (endBy item separator).Replies rules start
        (course.answer course.separated (course.afterSeparator start))) ∧
    (sepBy1 item separator).Replies rules start
        (course.answer1 start course.values (course.afterItem start)) ∧
      (sepEndBy1 item separator).Replies rules start
        (course.answer1 start course.values (course.afterRun start)) ∧
      (endBy1 item separator).Replies rules start
        (course.answer1 start course.separated (course.afterSeparator start)) := by
  obtain ⟨⟨sepBy, sepEndBy⟩, sepBy1, sepEndBy1⟩ := separated_of_alternates alternates
  obtain ⟨endBy, endBy1⟩ := ended_of_alternates alternates
  exact ⟨⟨sepBy, sepEndBy, endBy⟩, sepBy1, sepEndBy1, endBy1⟩

/-- The second item fails having consumed a letter: the separator before it is given back, kept as
an option, or kept as a part of its round. -/
theorem lists_of_broken_item :
    let item : Grammar (fun _ : Empty => Unit) String := .literal "ab"
    let separator : Grammar (fun _ : Empty => Unit) String := .literal ",;"
    let start : State := .start "ab,;ax"
    let course : Course String :=
      ⟨[⟨"ab", ⟨"ab,;ax", 2, some 1⟩, ⟨"ab,;ax", 4, some 3⟩⟩], none, .literal "ab",
        ⟨"ab,;ax", 5, some 4⟩⟩
    Alternates (item.Replies .empty) (separator.Replies .empty) start course ∧
      ((sepBy item separator).Replies .empty start
          (.success ["ab"], ⟨"ab,;ax", 2, some 4⟩) ∧
        (sepEndBy item separator).Replies .empty start
          (.success ["ab"], ⟨"ab,;ax", 4, some 4⟩) ∧
        (endBy item separator).Replies .empty start
          (.success ["ab"], ⟨"ab,;ax", 4, some 4⟩)) ∧
      (sepBy1 item separator).Replies .empty start
          (.success ["ab"], ⟨"ab,;ax", 2, some 4⟩) ∧
        (sepEndBy1 item separator).Replies .empty start
          (.success ["ab"], ⟨"ab,;ax", 4, some 4⟩) ∧
        (endBy1 item separator).Replies .empty start
          (.success ["ab"], ⟨"ab,;ax", 4, some 4⟩) := by
  intro item separator start course
  have separated : separator.Replies .empty ⟨"ab,;ax", 2, some 1⟩
      (.success ",;", ⟨"ab,;ax", 4, some 3⟩) := ⟨1, by decide⟩
  have alternates : Alternates (item.Replies .empty) (separator.Replies .empty) start course :=
    .round ⟨1, by decide⟩ separated (.itemFails ⟨1, by decide⟩)
  exact ⟨alternates, lists_of_alternates .empty item separator alternates⟩

end Grammar

end CommittedChoice
