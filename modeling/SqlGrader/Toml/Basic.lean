import SqlGrader.Text.Basic
/-!
# TOML values

A table knows how it came about, since that decides how it may be added to: a table with a header
of its own is not opened by a header again, and keys with dots only reach into tables that were
made without a header; a table in braces is closed for good. A table that only stands in front of
a longer header may still get a header of its own.

Members keep the order in which they were written, and no name stands twice in a table.
-/

namespace SqlGrader

/-- How a table came about. -/
inductive TableForm
  /-- By a header, or as the document itself. -/
  | header
  /-- In front of a longer header. -/
  | implied
  /-- In front of a dot in a key. -/
  | dotted
  /-- In braces. -/
  | inline
  deriving Repr, DecidableEq

inductive Toml
  | string (t : Text)
  | integer (n : Int)
  | float (x : Float)
  | boolean (b : Bool)
  | dateTime (t : Text)
  | array (items : List Toml)
  | table (form : TableForm) (members : List (String × Toml))
  /-- The tables of a header in double brackets, by their members. -/
  | tables (items : List (List (String × Toml)))

namespace Toml

/-- The members of a table, in order. -/
abbrev Members := List (String × Toml)

namespace Members

/-- Puts a value in the place of the one under that name, or at the end. -/
def set (name : String) (v : Toml) : Members → Members
  | [] => [(name, v)]
  | p :: ps => if p.1 = name then (name, v) :: ps else p :: set name v ps

/-- Changes the table at the end of a path. Tables on the way that are not there are made. `dotted`
says whether the path is part of a key or of a header. -/
def changeAt (dotted : Bool) (change : TableForm → Members → Option Members) :
    List String → TableForm → Members → Option Members
  | [], form, ms => change form ms
  | name :: path, _, ms =>
    match ms.lookup name with
    | none => do
      let form : TableForm := if dotted then .dotted else .implied
      let inner ← changeAt dotted change path form []
      some (ms.set name (.table form inner))
    | some (.table form inner) =>
      if form = .inline || (dotted && form = .header) then none
      else do
        let inner ← changeAt dotted change path form inner
        some (ms.set name (.table form inner))
    | some (.tables items) => do
      let inner ← changeAt dotted change path .header (items.getLast?.getD [])
      some (ms.set name (.tables (items.dropLast ++ [inner])))
    | some _ => none

/-- Adds a value under a key, which is a path and a name. The name must be new, and a path must end
in a table that keys with dots have made. -/
def insert (path : List String) (name : String) (v : Toml) (ms : Members) : Option Members :=
  changeAt true (fun form inner =>
    if (!path.isEmpty && form ≠ .dotted) || (inner.lookup name).isSome then none
    else some (inner ++ [(name, v)])) path .header ms

/-- Opens a table by its header. -/
def openTable (path : List String) (name : String) (ms : Members) : Option Members :=
  changeAt false (fun _ inner =>
    match inner.lookup name with
    | none => some (inner ++ [(name, .table .header [])])
    | some (.table .implied members) => some (inner.set name (.table .header members))
    | some _ => none) path .header ms

/-- Opens a further table by its header in double brackets. -/
def openNext (path : List String) (name : String) (ms : Members) : Option Members :=
  changeAt false (fun _ inner =>
    match inner.lookup name with
    | none => some (inner ++ [(name, .tables [[]])])
    | some (.tables items) => some (inner.set name (.tables (items ++ [[]])))
    | some _ => none) path .header ms

/-- Adds a value under a key to the table that a header has opened. -/
def insertBelow (header path : List String) (name : String) (v : Toml) (ms : Members) :
    Option Members :=
  changeAt false (fun _ inner => inner.insert path name v) header .header ms

end Members

end Toml

end SqlGrader
