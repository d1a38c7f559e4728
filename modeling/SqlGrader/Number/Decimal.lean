import SqlGrader.Text.Basic
/-!
# Decimal notation

A decimal is a natural number of units of a power of ten, with a sign. This module writes it
without an exponent, takes needless zeros away and rounds it: to the nearest, and from the middle
between two to the even one. That is how numeric columns and floats alike are documented to be
rounded to places, so both are rounded by the same quotient.
-/

namespace SqlGrader

/-- The number `±units / 10 ^ places`. -/
structure Decimal where
  negative : Bool
  units : Nat
  places : Nat
  deriving Repr, DecidableEq

namespace Decimal

/-- The decimal digits of a natural number. -/
def natText (n : Nat) : Text := Nat.toDigits 10 n

/-- The decimal digits of an integer, after a minus sign if it is negative. -/
def intText : Int → Text
  | .ofNat n => natText n
  | .negSucc n => '-' :: natText (n + 1)

/-- The quotient rounded to the nearest integer, from the middle to the even one. -/
def roundDiv (num den : Nat) : Nat :=
  let q := num / den
  let r := num % den
  if 2 * r < den then q
  else if den < 2 * r then q + 1
  else if q % 2 = 0 then q else q + 1

/-- The decimal with at most `places` places that is nearest. A number that has no more places is
kept, zeros at its end included. -/
def roundTo (places : Nat) (d : Decimal) : Decimal :=
  if d.places ≤ places then d
  else { d with units := roundDiv d.units (Nat.pow 10 (d.places - places)), places := places }

/-- The fewest places that hold `units / 10 ^ places`. -/
def stripPlaces (units : Nat) : Nat → Nat × Nat
  | 0 => (units, 0)
  | n + 1 => if units % 10 = 0 then stripPlaces (units / 10) n else (units, n + 1)

/-- The same number without zeros at its end, as a number in normal form is documented to be. -/
def strip (d : Decimal) : Decimal :=
  let (units, places) := stripPlaces d.units d.places
  { d with units, places }

def value (d : Decimal) : Rat :=
  mkRat (if d.negative then -(d.units : Int) else d.units) (Nat.pow 10 d.places)

/-- The digits with a point before the last `places` of them. -/
def positional (units places : Nat) : Text :=
  let digits := natText units
  let padded := List.replicate (places + 1 - digits.length) '0' ++ digits
  if places = 0 then padded
  else padded.take (padded.length - places) ++ '.' :: padded.drop (padded.length - places)

/-- The number without an exponent. Zero keeps its sign. -/
def text (d : Decimal) : Text :=
  (if d.negative then ['-'] else []) ++ positional d.units d.places

end Decimal

end SqlGrader
