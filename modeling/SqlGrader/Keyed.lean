/-!
# Values under names

A list of pairs with every name once, in the order of the names. Inserting replaces what stood under
the name, so of several values under one name the last one is kept.
-/

namespace SqlGrader

/-- Pairs of a name and a value in increasing order of the names. -/
abbrev Keyed (α : Type) := List (String × α)

namespace Keyed

variable {α : Type}

/-- Puts a value under a name. -/
def insert (name : String) (a : α) : Keyed α → Keyed α
  | [] => [(name, a)]
  | p :: ps =>
    if name < p.1 then (name, a) :: p :: ps
    else if p.1 < name then p :: insert name a ps
    else (name, a) :: ps

/-- The value under a name. -/
def get? (name : String) (ps : Keyed α) : Option α := (ps.find? (·.1 == name)).map (·.2)

@[simp] theorem get?_insert_self (name : String) (a : α) (ps : Keyed α) :
    get? name (insert name a ps) = some a := by
  induction ps with
  | nil => simp [insert, get?]
  | cons q qs ih =>
      rw [insert]
      split
      · simp [get?]
      split
      next hlt =>
        have hne : q.1 ≠ name := fun h => String.lt_irrefl name (h ▸ hlt)
        simpa [get?, hne] using ih
      · simp [get?]

theorem get?_insert_of_ne {name other : String} (ne : other ≠ name) (a : α) (ps : Keyed α) :
    get? other (insert name a ps) = get? other ps := by
  induction ps with
  | nil => simp [insert, get?, ne.symm]
  | cons q qs ih =>
      rw [insert]
      split
      · simp [get?, ne.symm]
      split
      · by_cases hq : q.1 = other
        · simp [get?, hq]
        · simpa [get?, hq] using ih
      next hnot hnot' =>
        have heq : q.1 = name := String.le_antisymm (String.not_lt.1 hnot) (String.not_lt.1 hnot')
        simp [get?, ne.symm, heq]

/-- Changes the value under a name, which is `initial` if there is none yet. -/
def update (name : String) (initial : α) (f : α → α) (ps : Keyed α) : Keyed α :=
  insert name (f ((get? name ps).getD initial)) ps

/-- The values under their names; of equal names the last one counts. -/
def ofList (ps : List (String × α)) : Keyed α := ps.foldl (fun done p => insert p.1 p.2 done) []

end Keyed

end SqlGrader
