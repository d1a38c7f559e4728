/-!
# Binary floating point, exactly

A `Float` is read as the number that it stands for: a natural number times a power of two, with a
sign. All printing and rounding of floats is arithmetic on that number.
-/

namespace SqlGrader

/-- What the 64 bits of a float stand for. -/
inductive Binary64
  /-- The number `±mantissa · 2 ^ exponent`. -/
  | finite (negative : Bool) (mantissa : Nat) (exponent : Int)
  | infinite (negative : Bool)
  | nan
  deriving Repr, DecidableEq

namespace Binary64

/-- The meaning of a bit pattern: a sign bit, eleven bits of exponent, 52 bits of fraction. -/
def ofBits (bits : Nat) : Binary64 :=
  let negative : Bool := bits / Nat.pow 2 63 % 2 == 1
  let biased : Nat := bits / Nat.pow 2 52 % Nat.pow 2 11
  let fraction : Nat := bits % Nat.pow 2 52
  if biased = 2047 then if fraction = 0 then .infinite negative else .nan
  else if biased = 0 then .finite negative fraction (-1074)
  else .finite negative (Nat.pow 2 52 + fraction) ((biased : Int) - 1075)

def ofFloat (x : Float) : Binary64 := ofBits x.toBits.toNat

/-- Numerator and denominator of `mantissa · 2 ^ exponent`. -/
def fraction (mantissa : Nat) (exponent : Int) : Nat × Nat :=
  match exponent with
  | .ofNat n => (mantissa * Nat.pow 2 n, 1)
  | .negSucc n => (mantissa, Nat.pow 2 (n + 1))

/-- The value of a finite number. -/
def toRat (negative : Bool) (mantissa : Nat) (exponent : Int) : Rat :=
  let (num, den) := fraction mantissa exponent
  mkRat (if negative then -(num : Int) else num) den

/-- Whether a finite number has no fractional part and a magnitude below `2 ^ 63`. -/
def isWord (mantissa : Nat) (exponent : Int) : Bool :=
  let (num, den) := fraction mantissa exponent
  num % den == 0 && num / den < Nat.pow 2 63

end Binary64

end SqlGrader
