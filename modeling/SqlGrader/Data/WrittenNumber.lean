import SqlGrader.Data.Cell
/-!
# Numbers that become cells by being written

A float that is an integer of 64 bits is taken as that integer. Any other one is written with as
many places as asked for, which cannot be more than there are; the text loses the zeros at its end
and is read as an integer of 64 bits if it is one. A decimal is rounded and loses its zeros before
it is written, and is an integer if no places are left.
-/

namespace SqlGrader

/-- The text without zeros at its end, and then without points at its end. -/
def Text.dropZeros (t : Text) : Text := dropEndWhile (· == '.') (dropEndWhile (· == '0') t)

/-- The number without zeros at the end of its fraction. Zero loses its sign. -/
def Text.trimZeros (t : Text) : Text :=
  let trimmed := if t.contains '.' then dropZeros t else t
  if trimmed = ['-', '0'] then ['0'] else trimmed

/-- The integer of 64 bits that digits after a sign are. -/
def Text.int64Of? (negative : Bool) (digits : Text) : Option Int :=
  if digits.isEmpty || !digits.all Char.isDigit then none
  else
    let n : Int := natOfDigits 10 digits
    (some (if negative then -n else n)).filter isInt64

/-- The integer of 64 bits that a text is: digits, after a sign or not. -/
def Text.int64? : Text → Option Int
  | '-' :: digits => int64Of? true digits
  | '+' :: digits => int64Of? false digits
  | digits => int64Of? false digits

/-- The same number without zeros at its end and, if it is zero, without a sign. -/
def Decimal.normalize (d : Decimal) : Decimal :=
  let stripped := d.strip
  { stripped with negative := stripped.negative && stripped.units != 0 }

/-- A finite float without its fractional part. -/
def Binary64.whole (negative : Bool) (mantissa : Nat) (exponent : Int) : Int :=
  let (num, den) := fraction mantissa exponent
  if negative then -((num / den : Nat) : Int) else (num / den : Nat)

/-- A finite float with exactly so many places. No float is written with more places than there can
be. -/
def FixedPlaces.write? (places : Nat) (negative : Bool) (mantissa : Nat) (exponent : Int) :
    Option Text :=
  let (num, den) := Binary64.fraction mantissa exponent
  if places ≤ limit then
    some (Decimal.text ⟨negative, Decimal.roundDiv (num * Nat.pow 10 places) den, places⟩)
  else none

namespace Cell

/-- The integer if there is one, else a decimal with that text. -/
def integerOr (t : Text) : Option Int → Cell
  | some n => int n
  | none => decimal t

/-- The cell of a number that was written: an integer if the text can be read as one. -/
def ofWritten (t : Text) : Cell :=
  let trimmed := Text.trimZeros t
  integerOr trimmed (Text.int64? trimmed)

/-- The cell of a float, if it does not take too many places. -/
def ofFloat? (places : Nat) (x : Float) : Option Cell :=
  match Binary64.ofFloat x with
  | .finite negative mantissa exponent =>
    if Binary64.isWord mantissa exponent then
      some (int (Binary64.whole negative mantissa exponent))
    else (FixedPlaces.write? places negative mantissa exponent).map ofWritten
  | _ => some (text (Value.floatText x))

/-- The cell of a decimal number that was read. -/
def ofRead (places : Nat) (d : Decimal) : Cell :=
  let rounded := (d.roundTo places).normalize
  integerOr (Text.trimZeros rounded.text) ((integer? rounded).filter isInt64)

mutual

/-- The cell of a value, if no float in it takes too many places. -/
def ofValue? (places : Nat) : Value → Option Cell
  | .null => some null
  | .bool b => some (bool b)
  | .int n => some (int n)
  | .float x => ofFloat? places x
  | .numeric t =>
    match NumericText.read? (Text.trim t) with
    | some d => some (ofRead places d)
    | none => some (text (Text.trim t))
  | .text t => some (text (Text.trim t))
  | .date t => some (temporal (Text.trim t))
  | .time t => some (temporal (Text.trim t))
  | .timestamp t => some (temporal (Text.trim t))
  | .timestampTz t => some (temporal (Text.trim t))
  | .uuid t => some (text (Text.lower (Text.trim t)))
  | .interval months days microseconds =>
    some (temporal (Value.intervalText months days microseconds))
  | .array items => (ofRow? places items).map array
  | .other t => some (text (Text.trim t))

def ofRow? (places : Nat) : List Value → Option (List Cell)
  | [] => some []
  | v :: vs => do
    let cell ← ofValue? places v
    let cells ← ofRow? places vs
    some (cell :: cells)

end

end Cell

end SqlGrader
