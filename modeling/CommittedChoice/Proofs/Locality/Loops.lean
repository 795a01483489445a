import CommittedChoice.Parser.Inversion
import CommittedChoice.Proofs.Locality.Choice

/-! The loops are local: by induction on their limit, a round is a step and the other rounds start
where its trip has led. -/
namespace CommittedChoice.Parser

variable {α β : Type} {p : Parser α} {q : Parser β}

namespace Local

theorem gather (body : p.Local) (limit : Nat) (taken : List α) : (gather p limit taken).Local := by
  induction limit generalizing taken with
  | zero => exact fun _ => .inl fun _ => rfl
  | succ limit rounds =>
    intro text
    apply (body.attempt text).step
    rintro (expected | value) trip ends
    · exact .ended ends.within
    · exact .after ends.within (rounds (value :: taken) trip.left)

theorem many (body : p.Local) (limit : Nat) : (many limit p).Local := body.gather limit []

theorem many1 (body : p.Local) (limit : Nat) : (many1 limit p).Local := by
  intro text
  apply (body.attempt text).step
  rintro (expected | value) trip ends
  · exact .ended ends.within
  · exact .after ends.within (body.gather limit [value] trip.left)

theorem gatherTill (body : p.Local) (terminator : q.Local) (limit : Nat) (taken : List α) :
    (gatherTill p q limit taken).Local := by
  induction limit generalizing taken with
  | zero => exact fun _ => .inl fun _ => rfl
  | succ limit rounds =>
    intro text
    apply (terminator text).step
    rintro (expected | _) trip ends
    · by_cases clean : trip.taken = []
      · simp only [State.follow_cursor_eq, clean, if_true]
        apply (LocalAt.after ends.within (body trip.left)).step
        rintro (expected' | value) further ends'
        · exact clean_or ends'.within
        · exact .after ends'.within (rounds (value :: taken) further.left)
      · simp only [State.follow_cursor_eq, clean, if_false]
        exact .ended ends.within
    · exact .ended ends.within

theorem manyTill (body : p.Local) (terminator : q.Local) (limit : Nat) :
    (manyTill limit p q).Local :=
  body.gatherTill terminator limit []

theorem countFrom (body : p.Local) (times : Nat) (taken : List α) :
    (countFrom p times taken).Local := by
  induction times generalizing taken with
  | zero => exact .pure taken.reverse
  | succ times rounds =>
    intro text
    apply (body text).step
    rintro (expected | value) trip ends
    · exact .ended ends.within
    · exact .after ends.within (rounds (value :: taken) trip.left)

theorem count [Stored α] (times : Nat) (body : p.Local) : (count times p).Local := by
  unfold Parser.count
  split
  · exact body.countFrom times []
  · exact fun _ => .inl fun _ => rfl

theorem gatherSeparated (item : p.Local) (separator : q.Local) (limit : Nat) (taken : List α) :
    (gatherSeparated p q limit taken).Local := by
  rw [gatherSeparated_eq]
  exact (separator.seqRight item).gather limit taken

theorem sepBy (item : p.Local) (separator : q.Local) (limit : Nat) : (sepBy limit p q).Local := by
  intro text
  apply (item.attempt text).step
  rintro (expected | value) trip ends
  · exact .ended ends.within
  · exact .after ends.within (item.gatherSeparated separator limit [value] trip.left)

theorem sepBy1 (item : p.Local) (separator : q.Local) (limit : Nat) :
    (sepBy1 limit p q).Local := by
  intro text
  apply (item.attempt text).step
  rintro (expected | value) trip ends
  · exact .ended ends.within
  · exact .after ends.within (item.gatherSeparated separator limit [value] trip.left)

theorem gatherSepEnd (item : p.Local) (separator : q.Local) (limit : Nat) (taken : List α) :
    (gatherSepEnd p q limit taken).Local := by
  induction limit generalizing taken with
  | zero => exact fun _ => .inl fun _ => rfl
  | succ limit rounds =>
    intro text
    apply (separator.attempt text).step
    rintro (expected | _) trip ends
    · exact .ended ends.within
    · apply (LocalAt.after ends.within (item.attempt trip.left)).step
      rintro (expected | value) further ends'
      · exact .ended ends'.within
      · exact .after ends'.within (rounds (value :: taken) further.left)

theorem sepEndBy (item : p.Local) (separator : q.Local) (limit : Nat) :
    (sepEndBy limit p q).Local := by
  intro text
  apply (item.attempt text).step
  rintro (expected | value) trip ends
  · exact .ended ends.within
  · exact .after ends.within (item.gatherSepEnd separator limit [value] trip.left)

theorem sepEndBy1 (item : p.Local) (separator : q.Local) (limit : Nat) :
    (sepEndBy1 limit p q).Local := by
  intro text
  apply (item.attempt text).step
  rintro (expected | value) trip ends
  · exact .ended ends.within
  · exact .after ends.within (item.gatherSepEnd separator limit [value] trip.left)

end Local

end CommittedChoice.Parser
