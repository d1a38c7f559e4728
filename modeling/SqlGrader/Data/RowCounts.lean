import SqlGrader.Data.RowComparison
/-!
# Counting rows

Two results can be compared by counting their rows: each result becomes the list of its different
rows, in order, with the number of times that each of them occurs. Equal counts mean equal results.
Where they differ, one pass over the counts of a result finds what it holds beyond the other one,
and keeps rows for the sample as long as there is room.
-/

namespace SqlGrader

/-- Different rows in increasing order, each with how often it occurs. -/
abbrev RowCounts := List (List Cell × Nat)

namespace RowCounts

/-- Counts one more row. -/
def add (row : List Cell) : RowCounts → RowCounts
  | [] => [(row, 1)]
  | (r, n) :: rest =>
    match Cell.compareAll row r with
    | .lt => (row, 1) :: (r, n) :: rest
    | .eq => (r, n + 1) :: rest
    | .gt => (r, n) :: add row rest

def ofRows (rows : List (List Cell)) : RowCounts :=
  rows.foldl (fun counts row => add row counts) []

/-- How often a row occurs. -/
def countOf (row : List Cell) (counts : RowCounts) : Nat := (counts.lookup row).getD 0

/-- Appends a row so many times, but only while the sample is shorter than its limit. -/
def fill (limit : Nat) (row : List Cell) : (times : Nat) → List (List Cell) → List (List Cell)
  | 0, sample => sample
  | times + 1, sample =>
    fill limit row times (if sample.length < limit then sample ++ [row] else sample)

/-- Adds to a surplus what is counted of one row beyond `right`. -/
def addBeyond (limit : Nat) (right : RowCounts) (found : Surplus) (p : List Cell × Nat) : Surplus :=
  let times := p.2 - countOf p.1 right
  ⟨found.count + times, fill limit p.1 times found.sample⟩

/-- What the first counts hold beyond the second ones. -/
def beyond (limit : Nat) (left right : RowCounts) : Surplus :=
  left.foldl (addBeyond limit right) ⟨0, []⟩

/-- Compares two results by their counts. There is no answer if more rows are missing than there
are. -/
def compare? {α : Type} [Scale α] (limit : Nat) (reference predicted : List (List Cell)) :
    Option (RowVerdict α) :=
  let left := ofRows reference
  let right := ofRows predicted
  if reference.length ≠ predicted.length then some .differentCount
  else if reference.isEmpty then some .bothEmpty
  else if left = right then some .same
  else
    let missing := beyond limit left right
    let extra := beyond limit right left
    if reference.length < missing.count then none
    else
      let common := reference.length - missing.count
      let union := common + missing.count + extra.count
      some (.differentRows missing extra
        (if union = 0 then Scale.ofNat 0 else Scale.ratio common union))

end RowCounts

end SqlGrader
