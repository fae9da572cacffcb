/-! # Sets of characters as ranges of code points

A Unicode property is stored as the list of its maximal ranges, in increasing order.
-/

namespace Vicinity.Text

/-- Inclusive ranges of code points. -/
abbrev CodeRanges := List (Nat × Nat)

/-- A character belongs to a set if one of the ranges holds its code point. -/
def CodeRanges.covers (ranges : CodeRanges) (c : Char) : Bool :=
  ranges.any fun range => decide (range.1 ≤ c.toNat) && decide (c.toNat ≤ range.2)

theorem CodeRanges.covers_iff (ranges : CodeRanges) (c : Char) :
    ranges.covers c = true ↔ ∃ range ∈ ranges, range.1 ≤ c.toNat ∧ c.toNat ≤ range.2 := by
  simp [covers, List.any_eq_true]

end Vicinity.Text
