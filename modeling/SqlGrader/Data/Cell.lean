import SqlGrader.Data.Value
import SqlGrader.Number.NumericText
import SqlGrader.Number.FixedPlaces
import SqlGrader.Number.Bounds
/-!
# Cells

The form in which column values are compared. Numbers of all types become integers where they are
integral and decimals otherwise, rounded to a number of places from the exact value, from the middle
to the even neighbour; texts lose the white space at their ends; points in time are one kind. So two
values of different types give equal cells where they stand for the same thing.

Cells have a total order: by kind, then by content, texts by their characters and arrays item by
item.
-/

namespace SqlGrader

inductive Cell
  | null
  | bool (b : Bool)
  | int (n : Int)
  /-- A number that is no 64-bit integer, without needless zeros. -/
  | decimal (t : Text)
  | text (t : Text)
  | temporal (t : Text)
  | array (items : List Cell)
  deriving Repr

namespace Cell

/-- The place of the kind in the order of the kinds. -/
def rank : Cell → Nat
  | null => 0
  | bool _ => 1
  | int _ => 2
  | decimal _ => 3
  | text _ => 4
  | temporal _ => 5
  | array _ => 6

mutual

def compare : Cell → Cell → Ordering
  | bool a, bool b => Ord.compare a b
  | int a, int b => Ord.compare a b
  | decimal a, decimal b => Ord.compare a b
  | text a, text b => Ord.compare a b
  | temporal a, temporal b => Ord.compare a b
  | array as, array bs => compareAll as bs
  | a, b => Ord.compare a.rank b.rank

/-- Cell by cell; a list that ends first comes first. -/
def compareAll : List Cell → List Cell → Ordering
  | [], [] => .eq
  | [], _ :: _ => .lt
  | _ :: _, [] => .gt
  | a :: as, b :: bs => (compare a b).then (compareAll as bs)

end

mutual

theorem compare_eq_iff (a b : Cell) : compare a b = .eq ↔ a = b := by
  cases a <;> cases b <;> simp [compare, rank, compareAll_eq_iff]

theorem compareAll_eq_iff (as bs : List Cell) : compareAll as bs = .eq ↔ as = bs := by
  cases as <;> cases bs <;>
    simp [compareAll, Ordering.then_eq_eq, compare_eq_iff, compareAll_eq_iff]

end

instance : DecidableEq Cell := fun a b => decidable_of_iff _ (compare_eq_iff a b)

/-- The number with its sign, if it has no places. -/
def integer? (d : Decimal) : Option Int :=
  if d.places = 0 then some (if d.negative then -(d.units : Int) else d.units) else none

/-- The cell of a decimal number. -/
def ofDecimal (d : Decimal) : Cell :=
  let stripped := d.strip
  match integer? stripped with
  | some n => if isInt64 n then int n else decimal stripped.text
  | none => decimal stripped.text

/-- The cell of a float; those that are no numbers become text. -/
def ofFloat (places : Nat) (x : Float) : Cell :=
  match Binary64.ofFloat x with
  | .finite negative mantissa exponent => ofDecimal (.ofBinary places negative mantissa exponent)
  | _ => text (Value.floatText x)

/-- The cell of a numeric text, trimmed; what is no number stays text. -/
def ofNumeric (places : Nat) (t : Text) : Cell :=
  match NumericText.read? t with
  | some d => ofDecimal (d.roundTo places)
  | none => text t

mutual

/-- The cell of a value, numbers rounded to that many places. -/
def ofValue (places : Nat) : Value → Cell
  | .null => null
  | .bool b => bool b
  | .int n => int n
  | .float x => ofFloat places x
  | .numeric t => ofNumeric places (Text.trim t)
  | .text t => text (Text.trim t)
  | .date t => temporal (Text.trim t)
  | .time t => temporal (Text.trim t)
  | .timestamp t => temporal (Text.trim t)
  | .timestampTz t => temporal (Text.trim t)
  | .uuid t => text (Text.lower (Text.trim t))
  | .interval months days microseconds => temporal (Value.intervalText months days microseconds)
  | .array items => array (ofRow places items)
  | .other t => text (Text.trim t)

/-- The cells of a row. -/
def ofRow (places : Nat) : List Value → List Cell
  | [] => []
  | v :: vs => ofValue places v :: ofRow places vs

end

mutual

/-- Whether the cell of a value takes writing a float with places: a finite one that is no integer
of 64 bits. -/
def takesPlaces : Value → Bool
  | .float x =>
    match Binary64.ofFloat x with
    | .finite _ mantissa exponent => !Binary64.isWord mantissa exponent
    | _ => false
  | .array items => rowTakesPlaces items
  | _ => false

/-- Whether one of the cells of a row takes writing a float with places. -/
def rowTakesPlaces : List Value → Bool
  | [] => false
  | v :: vs => takesPlaces v || rowTakesPlaces vs

end

end Cell

end SqlGrader
