/-! # Sets of code points

A set of code points is given by ranges in ascending order, each by its first and last member.
-/

namespace Wiretap.Text

/-- Whether a code point is in one of the ranges, which are in ascending order. -/
def inRanges (n : Nat) : List (Nat × Nat) → Bool
  | [] => false
  | (low, high) :: rest => if n < low then false else n ≤ high || inRanges n rest

end Wiretap.Text
