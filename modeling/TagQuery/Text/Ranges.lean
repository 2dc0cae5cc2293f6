/-!
Sets of characters given by sorted ranges of code points.
-/

namespace TagQuery.Text

/-- Is `n` in one of the ranges? They are sorted, so the search ends at the first
range that starts above `n`. -/
def inRanges (n : Nat) : List (Nat × Nat) → Bool
  | [] => false
  | (lo, hi) :: rest => if n < lo then false else n ≤ hi || inRanges n rest

end TagQuery.Text
