import SqlGrader.Text.Basic
/-!
# Digits

Natural numbers written in a base up to sixteen. Digits above nine are letters, small or capital.
-/

namespace SqlGrader.Text

def hexValue? (c : Char) : Option Nat :=
  if c.isDigit then some (c.toNat - '0'.toNat)
  else if 'a' ≤ c && c ≤ 'f' then some (c.toNat - 'a'.toNat + 10)
  else if 'A' ≤ c && c ≤ 'F' then some (c.toNat - 'A'.toNat + 10)
  else none

def isDigitIn (base : Nat) (c : Char) : Bool := (hexValue? c).any (· < base)

/-- The number that the digits write; other characters count as zeros. -/
def natOfDigits (base : Nat) (digits : Text) : Nat :=
  digits.foldl (fun n c => n * base + (hexValue? c).getD 0) 0

/-- The number that a text is written as in decimal digits, after a plus sign or not. -/
def natural? (t : Text) : Option Nat :=
  let digits := match t with
    | '+' :: cs => cs
    | cs => cs
  if digits.isEmpty || !digits.all Char.isDigit then none else some (natOfDigits 10 digits)

end SqlGrader.Text
