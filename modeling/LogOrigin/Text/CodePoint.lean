/-!
# Sets of code points

A set of code points is a list of closed ranges in increasing order.
-/

namespace LogOrigin.Text

/-- Membership in increasing closed ranges; the search ends at the first range beyond the point. -/
def inRanges : List (Nat × Nat) → Nat → Bool
  | [], _ => false
  | (first, last) :: ranges, n => if n < first then false else n ≤ last || inRanges ranges n

end LogOrigin.Text
