import SqlGrader.Number.Decimal
import SqlGrader.Number.Bounds
import SqlGrader.Text.Digit
/-!
# Numeric column texts

The text of a numeric column is read into a decimal of at most 96 bits of units and at most 28
places. Digits of the fraction beyond that are rounded away by the first of them, a five upwards,
and no more than digits and underscores may follow it; digits of the whole part beyond that refuse
the text. Underscores may stand after the first digit. An exponent moves the point by at most 28
places; places that it brings beyond the last one are rounded away in the same manner.

Numeric columns are read by the `Decimal` type of a library, and this is what its documentation says
of reading one: units of 96 bits, a scale from 0 to 28, rounding of what does not fit where there is
a fraction to round, an error where there is none, underscores between digits, and scientific
notation with an exponent of 32 bits. How far a number with underscores is read depends on the words
that the library reads into; see `shortLimit`.
-/

namespace SqlGrader.NumericText

/-- The bound of the units, which are a word of 96 bits. -/
def unitLimit : Nat := Nat.pow 2 96

/-- The greatest number of places, which is the greatest scale of a number. -/
def maxPlaces : Nat := 28

/-- Numbers whose units without their last digit are below this bound are short: their fraction ends
at an underscore that follows the last place. They are read into a word of 64 bits and not of 96:
units below a tenth of the greatest such word have room for one more digit, and the bound keeps away
from it by the greatest byte. -/
def shortLimit : Nat := (Nat.pow 2 64 - 1) / 10 - 255

def digitValue (c : Char) : Nat := c.toNat - '0'.toNat

/-- Digits and underscores, which are all that may follow the last place. -/
def isSurplus (t : Text) : Bool := t.all fun c => c.isDigit || c = '_'

/-- Ends a number before the digit `c`, which no longer fits, and the rest of the text. Rounding up
may need one place less. -/
def roundOff? (negative : Bool) (units places : Nat) (c : Char) (rest : Text) : Option Decimal :=
  if !isSurplus rest || !c.isDigit then none
  else if digitValue c < 5 then some ⟨negative, units, places⟩
  else if units + 1 < unitLimit then some ⟨negative, units + 1, places⟩
  else if places = 0 then none
  else some ⟨negative, (units + 5) / 10, places - 1⟩

/-- Reads on after the sign. `point` says whether the point was read, `digit` whether a digit was.
-/
def readFrom (negative point digit : Bool) (units places : Nat) : Text → Option Decimal
  | [] => if digit then some ⟨negative, units, places⟩ else none
  | c :: cs =>
    let full := point && maxPlaces ≤ places
    if c = '_' && digit then
      if full && units / 10 < shortLimit then
        if isSurplus cs then some ⟨negative, units, places⟩ else none
      else readFrom negative point digit units places cs
    else if full then roundOff? negative units places c cs
    else if c.isDigit then
      let next := units * 10 + digitValue c
      if next < unitLimit then
        readFrom negative point true next (if point then places + 1 else 0) cs
      else if point then roundOff? negative units places c cs
      else none
    else if c = '.' && !point then readFrom negative true digit units places cs
    else none

/-- A number without an exponent. -/
def plain? : Text → Option Decimal
  | '-' :: cs => readFrom true false false 0 0 cs
  | '+' :: cs => readFrom false false false 0 0 cs
  | cs => readFrom false false false 0 0 cs

/-- A natural number of 32 bits, after a plus sign or not. -/
def exponent? (t : Text) : Option Nat := (Text.natural? t).filter (fitsBits 32)

/-- Moves the point to the left. Units of less than the last place are rounded, a half upwards. -/
def lower? (d : Decimal) (n : Nat) : Option Decimal :=
  let places := d.places + n
  if maxPlaces < n then none
  else if places ≤ maxPlaces then some { d with places }
  else
    let step := Nat.pow 10 (places - maxPlaces)
    some { d with units := (d.units + step / 2) / step, places := maxPlaces }

/-- Moves the point to the right. -/
def raise? (d : Decimal) (n : Nat) : Option Decimal :=
  if n ≤ d.places then some { d with places := d.places - n }
  else if maxPlaces < n then none
  else
    let units := d.units * Nat.pow 10 (n - d.places)
    if units < unitLimit then some { d with units, places := 0 } else none

/-- The texts before and after the first exponent mark. -/
def cutExponent? : Text → Option (Text × Text)
  | [] => none
  | c :: cs =>
    if c = 'e' || c = 'E' then some ([], cs)
    else (cutExponent? cs).map fun p => (c :: p.1, p.2)

/-- The number that a text is, if it is one within the bounds: a plain one, or one in scientific
notation where there is an exponent mark. -/
def read? (t : Text) : Option Decimal :=
  match cutExponent? t with
  | none => plain? t
  | some (base, '-' :: exponent) => do lower? (← plain? base) (← exponent? exponent)
  | some (base, exponent) => do raise? (← plain? base) (← exponent? exponent)

end SqlGrader.NumericText
