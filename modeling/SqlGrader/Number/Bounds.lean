/-!
# Bounded integers

The ranges of integers that fit a machine word.
-/

namespace SqlGrader

/-- The integers of 64 bits. -/
def isInt64 (n : Int) : Bool := -9223372036854775808 ≤ n && n ≤ 9223372036854775807

/-- The natural numbers of so many bits. -/
def fitsBits (bits n : Nat) : Bool := n < Nat.pow 2 bits

end SqlGrader
