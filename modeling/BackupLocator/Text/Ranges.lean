/-!
# Ranges of code points

A property of characters is a list of closed ranges of code points, ascending and apart.
-/

namespace BackupLocator.Text

/-- Whether a code point lies in one of the ranges. -/
def inRanges (ranges : List (Nat × Nat)) (n : Nat) : Bool :=
  ranges.any fun r => r.1 ≤ n && n ≤ r.2

end BackupLocator.Text
