/-!
# Ranges of code points

A Unicode property is kept as a list of closed ranges of code points in ascending order.
-/

namespace FractalArchive.Text

/-- Whether a number lies in one of the ranges; the search stops at the first range that starts
after it. -/
def inRanges (n : Nat) : List (Nat × Nat) → Bool
  | [] => false
  | (low, high) :: rest => if n < low then false else n ≤ high || inRanges n rest

end FractalArchive.Text
