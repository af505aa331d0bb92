/-!
# Ranges of code points

A set of code points, given as the list of its maximal ranges in increasing order.
-/

namespace ProvisionGate.Text

/-- The code point lies in one of the ranges, ends included. -/
def inRanges (ranges : List (Nat × Nat)) (n : Nat) : Bool :=
  ranges.any fun (low, high) => low ≤ n && n ≤ high

end ProvisionGate.Text
