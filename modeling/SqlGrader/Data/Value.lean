import SqlGrader.Number.Shortest
/-!
# Column values

What a query returns, column by column. Numbers that are neither integers nor binary floats, and
points in time, are kept as the texts that the database gave.
-/

namespace SqlGrader

inductive Value
  | null
  | bool (b : Bool)
  | int (n : Int)
  | float (x : Float)
  | numeric (t : Text)
  | text (t : Text)
  | date (t : Text)
  | time (t : Text)
  | timestamp (t : Text)
  /-- A point in time with a time zone. -/
  | timestampTz (t : Text)
  | uuid (t : Text)
  | interval (months days microseconds : Int)
  | array (items : List Value)
  /-- A value of any other type, as text. -/
  | other (t : Text)
  deriving Inhabited

/-- The columns of a result row, in the order of the select list. -/
abbrev Row := List Value

namespace Value

/-- A float with the fewest digits that read back, never with an exponent. -/
def floatText (x : Float) : Text :=
  match Binary64.ofFloat x with
  | .finite negative mantissa exponent =>
    (if negative then ['-'] else []) ++ Shortest.positional (Shortest.digits mantissa exponent)
  | .infinite negative => (if negative then "-inf" else "inf").toList
  | .nan => "NaN".toList

/-- The three fields of an interval. -/
def intervalText (months days microseconds : Int) : Text :=
  Decimal.intText months ++ " mons ".toList ++ Decimal.intText days ++ " days ".toList ++
    Decimal.intText microseconds ++ " us".toList

mutual

/-- The value as text for a reader. -/
def display : Value → Text
  | null => "NULL".toList
  | bool b => (if b then "true" else "false").toList
  | int n => Decimal.intText n
  | float x => floatText x
  | numeric t => t
  | text t => t
  | date t => t
  | time t => t
  | timestamp t => t
  | timestampTz t => t
  | uuid t => t
  | interval months days microseconds => intervalText months days microseconds
  | array items => '\x7b' :: displayItems items ++ ['\x7d']
  | other t => t

/-- The items with commas between them. -/
def displayItems : List Value → Text
  | [] => []
  | [v] => display v
  | v :: vs => display v ++ ',' :: displayItems vs

end

/-- A value that may be missing. -/
def ofOption {α : Type} (f : α → Value) : Option α → Value
  | some a => f a
  | none => null

end Value

end SqlGrader
