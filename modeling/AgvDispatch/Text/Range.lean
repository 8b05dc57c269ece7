/-!
# Ranges of characters

Properties of characters are given as tables of ranges, with both ends included.
-/

namespace AgvDispatch.Text

/-- Whether a character lies in one of some ranges. -/
def inRanges (ranges : List (Nat × Nat)) (c : Char) : Bool :=
  ranges.any fun (low, high) => decide (low ≤ c.toNat) && decide (c.toNat ≤ high)

end AgvDispatch.Text
