import SqlGrader.Data.Cell
import SqlGrader.Score.Scale
/-!
# Comparing results

Two results are the same if they hold the same rows equally often, in any order. Where they do
not, the comparison says how: by the number of rows, or by the rows that are missing or extra, of
which the first ones in the order of rows are kept as a sample.
-/

namespace SqlGrader

/-- Rows of one result that the other one does not hold, or not as often. -/
structure Surplus where
  count : Nat
  sample : List (List Cell)
  deriving Repr, DecidableEq

/-- How two results compare. -/
inductive RowVerdict (α : Type)
  | bothEmpty
  | same
  | differentCount
  /-- As many rows, but not the same ones; `overlap` is the common part of all of them. -/
  | differentRows (missing extra : Surplus) (overlap : α)
  deriving Repr

namespace RowVerdict

def isSame {α : Type} : RowVerdict α → Bool
  | bothEmpty => true
  | same => true
  | differentCount => false
  | differentRows _ _ _ => false

end RowVerdict

namespace Rows

/-- The order of rows. -/
def le (r s : List Cell) : Bool := (Cell.compareAll r s).isLE

/-- The rows of the first list after each row of the second one has taken away one that is equal. -/
def without (rows taken : List (List Cell)) : List (List Cell) := taken.foldl List.erase rows

/-- What the first list holds beyond the second one. -/
def surplus (limit : Nat) (rows taken : List (List Cell)) : Surplus :=
  let left := without rows taken
  ⟨left.length, (left.mergeSort le).take limit⟩

/-- Compares the rows of a reference with the rows of a prediction, keeping at most `limit` rows of
each surplus. -/
def compare {α : Type} [Scale α] (limit : Nat) (reference predicted : List (List Cell)) :
    RowVerdict α :=
  if reference.length ≠ predicted.length then .differentCount
  else if reference.isEmpty then .bothEmpty
  else if reference.isPerm predicted then .same
  else
    let missing := surplus limit reference predicted
    let extra := surplus limit predicted reference
    let common := reference.length - missing.count
    .differentRows missing extra (Scale.ratio common (common + missing.count + extra.count))

end Rows

end SqlGrader
