/-!
# Ranges of code points

A property of characters is a table of the code points that have it, as inclusive ranges.
-/

namespace SqlGrader.Text

/-- Whether one of the inclusive ranges holds the code point. -/
def inRanges (ranges : List (Nat × Nat)) (n : Nat) : Bool :=
  ranges.any fun r => r.1 ≤ n && n ≤ r.2

end SqlGrader.Text
