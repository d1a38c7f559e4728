import SqlGrader.Score.Scale
/-!
# Similarity of sets

Two lists are compared as sets by the part of their union that they have in common.
-/

namespace SqlGrader.Similarity

variable {α κ : Type} [DecidableEq κ] [Scale α]

/-- The list without repetitions; of equal members the last one is kept. -/
def distinct : List κ → List κ
  | [] => []
  | a :: as => if a ∈ as then distinct as else a :: distinct as

/-- The number of members that both sets have. -/
def commonCount (left right : List κ) : Nat :=
  ((distinct left).filter (· ∈ right)).length

/-- The number of members that one of the sets has. -/
def unionCount (left right : List κ) : Nat :=
  (distinct left).length + ((distinct right).filter (· ∉ left)).length

/-- The common part by the union; one if both sets are empty. That it is one for any two sets that
are the same is said here once, for every scale: where counts are exact, as in floating point below
`2 ^ 53`, a count by itself is one (`Similarity.jaccard_eq_ratio`). -/
def jaccard (left right : List κ) : α :=
  if commonCount left right = unionCount left right then Scale.ofNat 1
  else Scale.ratio (commonCount left right) (unionCount left right)

end SqlGrader.Similarity
