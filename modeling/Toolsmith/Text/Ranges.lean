import Toolsmith.Text.Basic

/-!
# Sets of code points

A property of Unicode is a set of code points, given by its maximal intervals in ascending order.
-/

namespace Toolsmith

/-- A set of numbers as ascending, disjoint intervals with both ends included. -/
abbrev Ranges := List (Nat × Nat)

namespace Ranges

/-- Whether a number lies in one of the intervals; the search ends at the first that lies above. -/
def has : Ranges → Nat → Bool
  | [], _ => false
  | (low, high) :: rest, n => low ≤ n && (n ≤ high || has rest n)

end Ranges

end Toolsmith
