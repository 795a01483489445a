/-! A set of code points as a list of inclusive ranges. -/
namespace CommittedChoice.Unicode

abbrev CodeRanges : Type := List (Nat × Nat)

def CodeRanges.contains (ranges : CodeRanges) (char : Char) : Bool :=
  ranges.any fun range => range.1 ≤ char.toNat && char.toNat ≤ range.2

theorem CodeRanges.contains_iff (ranges : CodeRanges) (char : Char) :
    ranges.contains char ↔ ∃ range ∈ ranges, range.1 ≤ char.toNat ∧ char.toNat ≤ range.2 := by
  simp [CodeRanges.contains]

end CommittedChoice.Unicode
