import SqlGrader.Number.Decimal
/-!
# Points in time

Seconds since the beginning of 1970, in the calendar of universal time. Years are counted from March
on, so that the leap day is the last day of a year; four hundred years have 146097 days.
-/

namespace SqlGrader

/-- Seconds since the beginning of 1970. -/
structure Timestamp where
  seconds : Nat
  deriving Repr, DecidableEq

/-- A day of the calendar. -/
structure Day where
  year : Nat
  month : Nat
  day : Nat
  deriving Repr, DecidableEq

/-- The day after so many days since the beginning of 1970. -/
def Day.ofCount (days : Nat) : Day :=
  let shifted := days + 719468
  let era := shifted / 146097
  let inEra := shifted % 146097
  let yearInEra := (inEra - inEra / 1460 + inEra / 36524 - inEra / 146096) / 365
  let inYear := inEra - (365 * yearInEra + yearInEra / 4 - yearInEra / 100)
  let marchMonth := (5 * inYear + 2) / 153
  let month := if marchMonth < 10 then marchMonth + 3 else marchMonth - 9
  { year := yearInEra + 400 * era + if month ≤ 2 then 1 else 0
    month
    day := inYear - (153 * marchMonth + 2) / 5 + 1 }

namespace Timestamp

/-- A number with at least so many digits. -/
def padded (width n : Nat) : String :=
  let digits := Decimal.natText n
  String.ofList (List.replicate (width - digits.length) '0' ++ digits)

/-- The date, and the time of the day with `sep` between hours, minutes and seconds. -/
def text (sep : String) (t : Timestamp) : String :=
  let d := Day.ofCount (t.seconds / 86400)
  let s := t.seconds % 86400
  "-".intercalate [padded 4 d.year, padded 2 d.month, padded 2 d.day] ++ "T" ++
    sep.intercalate [padded 2 (s / 3600), padded 2 (s / 60 % 60), padded 2 (s % 60)]

/-- The point in time for a document. -/
def forDocument (t : Timestamp) : String := t.text ":" ++ "+00:00"

/-- The point in time for the name of a file. -/
def forFileName (t : Timestamp) : String := t.text "-" ++ "Z"

end Timestamp

end SqlGrader
