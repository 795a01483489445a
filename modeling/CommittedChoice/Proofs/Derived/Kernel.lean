import CommittedChoice.Proofs.Derived.Absorption
import CommittedChoice.Proofs.Sequencing.Laws

/-! Combinators written in others. Sequences, options, lists and counts each run in a way of their
own, and reply as they would if they were made of `bind`, `pure`, `orElse`, `attempt` and `many`. -/
namespace CommittedChoice

variable {α β γ : Type}

namespace Parser

variable {p : Parser α}

theorem option_eq_orElse (default : α) (p : Parser α) :
    p.option default = p.orElse (pure default) := by
  funext state
  rcases run : p state with _ | ⟨expected | value, after⟩
  · simp [option, orElse, run]
  · by_cases clean : after.cursor = state.cursor <;> simp [option, orElse, pure, run, clean]
  · simp [option, orElse, run]

theorem optional_eq_orElse (p : Parser α) :
    p.optional = (p.map fun _ => ()).orElse (pure ()) := by
  funext state
  rcases run : p state with _ | ⟨expected | value, after⟩
  · simp [optional, orElse, map, run]
  · by_cases clean : after.cursor = state.cursor <;>
      simp [optional, orElse, map, pure, run, clean]
  · simp [optional, orElse, map, run]

theorem seqLeft_eq_bind (p : Parser α) (q : Parser β) :
    p.seqLeft q = p.bind fun value => q.bind fun _ => pure value := calc
  (p.bind fun value => q.map fun _ => value)
    = p.bind fun value => q.bind fun _ => pure value :=
      congrArg p.bind (funext fun value => monadic.map_eq_bind (fun _ => value) q)

theorem seqPair_eq_bind (p : Parser α) (q : Parser β) :
    p.seqPair q = p.bind fun value => q.bind fun other => pure (value, other) := calc
  (p.bind fun value => q.map fun other => (value, other))
    = p.bind fun value => q.bind fun other => pure (value, other) :=
      congrArg p.bind (funext fun value => monadic.map_eq_bind (value, ·) q)

theorem between_eq (o : Parser α) (c : Parser β) (p : Parser γ) :
    between o c p = (o.seqRight p).seqLeft c :=
  (monadic.bind_assoc o (fun _ => p) fun value => c.map fun _ => value).symm

theorem map_map (f : α → β) (h : β → γ) (p : Parser α) : (p.map f).map h = p.map (h ∘ f) := by
  funext state
  rcases run : p state with _ | ⟨expected | value, after⟩ <;> simp [map, run]

/-- The values that a loop starts with stand before those it gathers. -/
theorem gather_eq_map (p : Parser α) (limit : Nat) (taken : List α) :
    gather p limit taken = (many limit p).map (taken.reverse ++ ·) := by
  induction limit generalizing taken with
  | zero => rfl
  | succ limit ih =>
    have further (value : α) : gather p limit (value :: taken) =
        (gather p limit [value]).map (taken.reverse ++ ·) := by
      rw [ih (value :: taken), ih [value], map_map]
      simp [Function.comp_def]
    funext state
    rcases run : p.attempt state with _ | ⟨expected | value, after⟩
    · simp [many, gather, map, run]
    · simp [many, gather, map, run]
    · simpa [many, gather, map, run] using congrFun (further value) after

theorem many1_eq_bind (limit : Nat) (p : Parser α) :
    many1 limit p = p.attempt.bind fun value =>
      (many limit p).bind fun values => pure (value :: values) := calc
  (p.attempt.bind fun value => gather p limit [value])
    = p.attempt.bind fun value => (many limit p).map (value :: ·) :=
      congrArg p.attempt.bind (funext fun value => gather_eq_map p limit [value])
  _ = p.attempt.bind fun value => (many limit p).bind fun values => pure (value :: values) :=
      congrArg p.attempt.bind (funext fun value => monadic.map_eq_bind (value :: ·) _)

/-- Behind its first item a list is a repetition of separators and items. -/
theorem sepBy1_eq_bind (limit : Nat) (item : Parser α) (separator : Parser β) :
    sepBy1 limit item separator = item.attempt.bind fun value =>
      (many limit (separator.seqRight item)).bind fun values => pure (value :: values) := calc
  (item.attempt.bind fun value => gatherSeparated item separator limit [value])
    = item.attempt.bind fun value => (many limit (separator.seqRight item)).map (value :: ·) := by
      simp only [gatherSeparated_eq]
      exact congrArg item.attempt.bind (funext fun value => gather_eq_map _ limit [value])
  _ = _ := congrArg item.attempt.bind (funext fun value => monadic.map_eq_bind (value :: ·) _)

theorem countFrom_succ (p : Parser α) (times : Nat) (taken : List α) :
    countFrom p (times + 1) taken = p.bind fun value => countFrom p times (value :: taken) := rfl

theorem countFrom_eq_map (p : Parser α) (times : Nat) (taken : List α) :
    countFrom p times taken = (countFrom p times []).map (taken.reverse ++ ·) := by
  induction times generalizing taken with
  | zero =>
    funext state
    simp [countFrom, map]
  | succ times ih =>
    have further (value : α) : countFrom p times (value :: taken) =
        (countFrom p times [value]).map (taken.reverse ++ ·) := by
      rw [ih (value :: taken), ih [value], map_map]
      simp [Function.comp_def]
    funext state
    rcases run : p state with _ | ⟨expected | value, after⟩
    · simp [countFrom, map, run]
    · simp [countFrom, map, run]
    · simpa [countFrom, map, run] using congrFun (further value) after

/-- A count goes on with what is left to do from the values it has. -/
theorem countFrom_add (p : Parser α) (m n : Nat) (taken : List α) :
    countFrom p (m + n) taken =
      (countFrom p m taken).bind fun values => countFrom p n values.reverse := by
  induction m generalizing taken with
  | zero =>
    have none : countFrom p 0 taken = pure taken.reverse := rfl
    rw [Nat.zero_add, none, monadic.pure_bind, List.reverse_reverse]
  | succ m ih =>
    rw [Nat.succ_add, countFrom_succ, countFrom_succ, monadic.bind_assoc]
    simp only [ih]

/-- Where there is room for all values, there is for the first and for the others. -/
theorem count_add [Stored α] {m n : Nat} (room : Reservable α (m + n)) (p : Parser α) :
    count (m + n) p =
      (count m p).bind fun first => (count n p).bind fun second => pure (first ++ second) := by
  have first : Reservable α m := room.mono (Nat.le_add_right m n)
  have second : Reservable α n := room.mono (Nat.le_add_left n m)
  rw [count, if_pos room, count, if_pos first, count, if_pos second]
  calc countFrom p (m + n) []
    _ = (countFrom p m []).bind fun first => countFrom p n first.reverse := countFrom_add p m n []
    _ = (countFrom p m []).bind fun first => (countFrom p n []).map (first ++ ·) := by
        refine congrArg (countFrom p m []).bind (funext fun first => ?_)
        rw [countFrom_eq_map p n, List.reverse_reverse]
    _ = _ := congrArg (countFrom p m []).bind
        (funext fun first => monadic.map_eq_bind (first ++ ·) _)

end Parser

namespace Grammar

variable {ι : Type} {τ : ι → Type} {rules : Rules τ} {g : Grammar τ α} {item : Grammar τ β}
  {separator : Grammar τ γ}

/-- A list that may be empty is one that may not be or nothing: both run on from an item in the same
way, and they differ in what they make of an item that has failed and was given back. -/
theorem repliesAs_orElse_pure {list list1 : Grammar τ α} {default : α}
    {listed : State → Reply α → Prop}
    (sure : ∀ state expected after, ¬listed state (.failure expected, after))
    (atLeastOne : ∀ state reply, list1.Replies rules state reply ↔ listed state reply ∨
      ∃ expected after, item.Replies rules state (.failure expected, after) ∧
        (.failure expected, after.rewind state.cursor) = reply)
    (any : ∀ state reply, list.Replies rules state reply ↔ listed state reply ∨
      ∃ expected after, item.Replies rules state (.failure expected, after) ∧
        (.success default, after.rewind state.cursor) = reply) :
    list.RepliesAs rules (orElse list1 (.pure default)) := by
  intro state reply
  have clean (after : State) : (after.rewind state.cursor).cursor = state.cursor := rfl
  rw [any, replies_orElse]
  constructor
  · rintro (known | ⟨expected, after, failed, rfl⟩)
    · obtain ⟨expected | value, after⟩ := reply
      · exact absurd known (sure state expected after)
      · exact .inl ⟨value, after, (atLeastOne _ _).mpr (.inl known), rfl⟩
    · refine .inr ⟨expected, after.rewind state.cursor,
        (atLeastOne _ _).mpr (.inr ⟨expected, after, failed, rfl⟩), ?_⟩
      rw [if_pos (clean after)]
      exact .inl ⟨default, _, ⟨0, rfl⟩, rfl⟩
  · rintro (⟨value, after, succeeded, rfl⟩ | ⟨expected, middle, failed, rest⟩)
    · obtain known | ⟨_, _, _, ⟨⟩⟩ := (atLeastOne _ _).mp succeeded
      exact .inl known
    · obtain known | ⟨expected, after, stopped, ⟨⟩⟩ := (atLeastOne _ _).mp failed
      · exact absurd known (sure state expected middle)
      · rw [if_pos (clean after)] at rest
        obtain ⟨_, _, ⟨_, ⟨⟩⟩, same⟩ | ⟨_, _, ⟨_, ⟨⟩⟩, _⟩ := rest
        exact .inr ⟨expected, after, stopped, same⟩

/-- A repetition, told by its first round. -/
theorem replies_many_first {state : State} {reply : Reply (List α)} :
    (many g).Replies rules state reply ↔
      (∃ value after, g.Replies rules state (.success value, after) ∧
        ∃ values last, Chain (Succeeds (g.Replies rules)) after values last ∧
          Exhausts (g.Replies rules) last (value :: values) reply) ∨
      ∃ expected after, g.Replies rules state (.failure expected, after) ∧
        (.success [], after.rewind state.cursor) = reply := by
  rw [replies_many]
  constructor
  · rintro ⟨values, last, chain, stopped⟩
    cases chain with
    | nil => exact .inr stopped
    | cons first others => exact .inl ⟨_, _, first, _, _, others, stopped⟩
  · rintro (⟨value, after, first, values, last, others, stopped⟩ | stopped)
    · exact ⟨value :: values, last, .cons first others, stopped⟩
    · exact ⟨[], state, .nil, stopped⟩

theorem repliesAs_many (rules : Rules τ) (g : Grammar τ α) :
    (many g).RepliesAs rules (orElse (many1 g) (.pure [])) := by
  refine repliesAs_orElse_pure ?_ (fun _ _ => replies_many1) fun _ _ => replies_many_first
  rintro _ _ _ ⟨_, _, _, _, _, _, _, _, _, ⟨⟩⟩

theorem repliesAs_sepBy (rules : Rules τ) (item : Grammar τ β) (separator : Grammar τ γ) :
    (sepBy item separator).RepliesAs rules (orElse (sepBy1 item separator) (.pure [])) := by
  refine repliesAs_orElse_pure ?_ (fun _ _ => replies_sepBy1) fun _ _ => replies_sepBy
  rintro _ _ _ ⟨_, _, _, _, _, _, _, _, _, ⟨⟩⟩

theorem repliesAs_sepEndBy (rules : Rules τ) (item : Grammar τ β) (separator : Grammar τ γ) :
    (sepEndBy item separator).RepliesAs rules (orElse (sepEndBy1 item separator) (.pure [])) := by
  refine repliesAs_orElse_pure ?_ (fun _ _ => replies_sepEndBy1) fun _ _ => replies_sepEndBy
  rintro _ _ _ ⟨_, _, _, _, _, _, ⟨_, _, _, ⟨⟩⟩ | ⟨_, _, _, _, _, _, ⟨⟩⟩⟩

/-- Two counts in sequence ask for less room at a time than one for all their values. -/
theorem replies_count_add [Stored α] {p : Grammar τ α} {m n : Nat} {state : State}
    {reply : Reply (List α)} :
    (count (m + n) p).Replies rules state reply ↔ Reservable α (m + n) ∧
      (bind (count m p) fun first => bind (count n p) fun second =>
        .pure (first ++ second)).Replies rules state reply := by
  have same (room : Reservable α (m + n)) : (count (m + n) p).RepliesAs rules
      (bind (count m p) fun first => bind (count n p) fun second => .pure (first ++ second)) :=
    repliesAs_of_run fun _ => Parser.count_add room _
  constructor
  · intro replies
    exact ⟨replies.room, (same replies.room state reply).mp replies⟩
  · rintro ⟨room, replies⟩
    exact (same room state reply).mpr replies

/-- Every derived combinator replies as its definition from the kernel does, on success and on every
kind of failure: with the same value or labels, the same cursor and the same marker. One count for
what two may do in sequence does so as far as there is room for all values at once. -/
theorem derived_reply_as_kernel (rules : Rules τ) (p : Grammar τ α) (q : Grammar τ β)
    (r : Grammar τ γ) (default : α) (f : α → β) (m n : Nat) :
    (option default p).RepliesAs rules (orElse p (.pure default)) ∧
    (optional p).RepliesAs rules (orElse (map (fun _ => ()) p) (.pure ())) ∧
    (map f p).RepliesAs rules (bind p fun value => .pure (f value)) ∧
    (seqRight p q).RepliesAs rules (bind p fun _ => q) ∧
    (seqLeft p q).RepliesAs rules (bind p fun value => bind q fun _ => .pure value) ∧
    (seqPair p q).RepliesAs rules (bind p fun value => bind q fun other => .pure (value, other)) ∧
    (between p q r).RepliesAs rules (seqLeft (seqRight p r) q) ∧
    (many1 p).RepliesAs rules
      (bind (attempt p) fun value => bind (many p) fun values => .pure (value :: values)) ∧
    (sepBy1 p q).RepliesAs rules
      (bind (attempt p) fun value =>
        bind (many (seqRight q p)) fun values => .pure (value :: values)) ∧
    (many p).RepliesAs rules (orElse (many1 p) (.pure [])) ∧
    (sepBy p q).RepliesAs rules (orElse (sepBy1 p q) (.pure [])) ∧
    (endBy p q).RepliesAs rules (orElse (endBy1 p q) (.pure [])) ∧
    (sepEndBy p q).RepliesAs rules (orElse (sepEndBy1 p q) (.pure [])) ∧
    ∀ [Stored α] state reply, (count (m + n) p).Replies rules state reply ↔
      Reservable α (m + n) ∧ (bind (count m p) fun first => bind (count n p) fun second =>
        .pure (first ++ second)).Replies rules state reply := by
  refine ⟨?_, ?_, ?_, ?_, ?_, ?_, ?_, ?_, ?_, repliesAs_many rules p, repliesAs_sepBy rules p q,
    repliesAs_many rules (seqLeft p q), repliesAs_sepEndBy rules p q, fun _ _ => replies_count_add⟩
  · exact repliesAs_of_run fun _ => Parser.option_eq_orElse default _
  · exact repliesAs_of_run fun _ => Parser.optional_eq_orElse _
  · exact repliesAs_of_run fun _ => Parser.monadic.map_eq_bind f _
  · exact repliesAs_of_run fun _ => rfl
  · exact repliesAs_of_run fun _ => Parser.seqLeft_eq_bind _ _
  · exact repliesAs_of_run fun _ => Parser.seqPair_eq_bind _ _
  · exact repliesAs_of_run fun _ => Parser.between_eq _ _ _
  · exact repliesAs_of_run fun fuel => Parser.many1_eq_bind fuel _
  · exact repliesAs_of_run fun fuel => Parser.sepBy1_eq_bind fuel _ _

/-- The count of one fails and says what it expected, while the count of all of them is broken
off. -/
theorem large_count_breaks_sequence :
    let letter : Grammar (fun _ : Empty => Unit) Char := .char 'a'
    let reply : Reply (List Char) := (.failure (.label "\"a\""), .start "b")
    (bind (count 1 letter) fun first => bind (count (storageLimit - 1) letter) fun second =>
        .pure (first ++ second)).Replies .empty (.start "b") reply ∧
      ¬(count (1 + (storageLimit - 1)) letter).Replies .empty (.start "b") reply := by
  intro letter reply
  have large : ¬Reservable Char (1 + (storageLimit - 1)) := by decide
  exact ⟨⟨0, by decide⟩, fun replies => large replies.room⟩

end Grammar

end CommittedChoice
