import SqlGrader.Json.Basic
/-!
# Records in JSON

A record is written as an object, or as an array of its fields in order. In an object the members
come in any order, a field may have several names, and members of other names mean nothing; a
field that is named twice, under one name or under two, spoils the record. In an array fields may
be missing at the end, down to a least number of them.
-/

namespace SqlGrader.Json

/-- How a record is written. -/
structure RecordForm where
  /-- The names of each field. -/
  names : List (List String)
  /-- How many fields an array must have. -/
  leastItems : Nat

/-- The value of the member that has one of the names, if there is one. Two of them spoil the
record. -/
def fieldOf? (members : List (String × Json)) (names : List String) : Option (Option Json) :=
  match members.filter fun m => names.contains m.1 with
  | [] => some none
  | [m] => some (some m.2)
  | _ => none

/-- The fields of a record, in order. -/
def RecordForm.read? (form : RecordForm) : Json → Option (List (Option Json))
  | .object members => form.names.mapM (fieldOf? members)
  | .array items =>
    if form.leastItems ≤ items.length && items.length ≤ form.names.length then
      some (items.map some ++ List.replicate (form.names.length - items.length) none)
    else none
  | _ => none

def string? : Json → Option String
  | .string s => some s
  | _ => none

def text? : Json → Option (List Char)
  | .string s => some s.toList
  | _ => none

/-- A text, or nothing for null. -/
def textOrNull? : Json → Option (Option (List Char))
  | .null => some none
  | j => (text? j).map some

/-- The value of a field that must be there. -/
def required {α : Type} (read : Json → Option α) (field : Option Json) : Option α :=
  field.bind read

/-- The value of a field that may be missing. -/
def orElse {α : Type} (default : α) (read : Json → Option α) : Option Json → Option α
  | none => some default
  | some j => read j

end SqlGrader.Json
