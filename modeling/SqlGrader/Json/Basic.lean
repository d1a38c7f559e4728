import SqlGrader.Keyed
/-!
# JSON values

A value keeps the members of an object in the order in which they were written, repeated names
included: whether a repetition is an error or the last one counts is for the reader of the value to
say. Whole numbers are told apart from numbers with a fraction or an exponent.
-/

namespace SqlGrader

inductive Json
  | null
  | bool (b : Bool)
  | int (n : Int)
  | float (x : Float)
  | string (s : String)
  | array (items : List Json)
  | object (members : List (String × Json))
  deriving Inhabited

namespace Json

/-- A text as a JSON string. -/
def text (t : List Char) : Json := .string (String.ofList t)

def nat (n : Nat) : Json := .int n

def strings (xs : List String) : Json := .array (xs.map .string)

/-- The value, or null for nothing. -/
def optional {α : Type} (f : α → Json) : Option α → Json
  | some a => f a
  | none => .null

/-- One member, or none for nothing. -/
def memberIfSome {α : Type} (name : String) (f : α → Json) : Option α → List (String × Json)
  | some a => [(name, f a)]
  | none => []

/-- The value of the last member of that name. -/
def member? (j : Json) (name : String) : Option Json :=
  match j with
  | .object members => (members.reverse.find? (·.1 == name)).map (·.2)
  | _ => none

mutual

/-- The value with the members of every object in the order of their names, the last of equal names
being kept. -/
def sorted : Json → Json
  | .array items => .array (sortedItems items)
  | .object members => .object (sortedMembers [] members)
  | j => j

def sortedItems : List Json → List Json
  | [] => []
  | j :: js => j.sorted :: sortedItems js

def sortedMembers (done : Keyed Json) : List (String × Json) → Keyed Json
  | [] => done
  | (name, j) :: ms => sortedMembers (Keyed.insert name j.sorted done) ms

end

end Json

end SqlGrader
