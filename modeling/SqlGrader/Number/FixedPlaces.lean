import SqlGrader.Number.Binary64
import SqlGrader.Number.Decimal
/-!
# Fixed numbers of decimal places

A float is rounded to a number of decimal places from its exact value, from the middle between two
decimals to the even one. The number of places is one of 16 bits.
-/

namespace SqlGrader

/-- The greatest number of places that a float can be written with. -/
def FixedPlaces.limit : Nat := 65535

/-- The decimal of that many places that is nearest to a finite float. No float has more than
1074. -/
def Decimal.ofBinary (places : Nat) (negative : Bool) (mantissa : Nat) (exponent : Int) : Decimal :=
  let places := min places 1074
  let (num, den) := Binary64.fraction mantissa exponent
  ⟨negative, Decimal.roundDiv (num * Nat.pow 10 places) den, places⟩

namespace FixedPlaces

/-- A float with exactly that many places, up to 1074 of them; what is no number is named. -/
def text (places : Nat) (x : Float) : Text :=
  match Binary64.ofFloat x with
  | .finite negative mantissa exponent => (Decimal.ofBinary places negative mantissa exponent).text
  | .infinite negative => (if negative then "-inf" else "inf").toList
  | .nan => "NaN".toList

end FixedPlaces

end SqlGrader
