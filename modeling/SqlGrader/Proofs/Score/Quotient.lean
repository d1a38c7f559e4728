import Mathlib.Algebra.Order.Ring.Rat
import SqlGrader.Proofs.Number.Count
import SqlGrader.Proofs.Score.Similarity
import SqlGrader.Score.ComponentMatch
/-!
# Scores as quotients of counts

A similarity is a quotient of two counts, and a mean credit is a quotient of a sum by a count. Both
are written here without the case of full similarity: where counts are exact, a count by itself is
one, and so many ones sum up to their count. In floating point this holds of all counts below
`2 ^ 53`, which is more than a text can have tokens in memory.
-/

namespace SqlGrader

namespace Scale

/-- Up to a bound, counting goes up by one, and a count by itself is one. -/
structure Counts (α : Type) [Scale α] (bound : Nat) : Prop where
  add_one : ∀ n < bound, (ofNat n + ofNat 1 : α) = ofNat (n + 1)
  div_self : ∀ n ≤ bound, 0 < n → (ofNat n / ofNat n : α) = ofNat 1

theorem counts_rat (bound : Nat) : Counts Rat bound where
  add_one n _ := by
    show (n : Rat) + (1 : Nat) = (n + 1 : Nat)
    rw [Nat.cast_add]
  div_self n _ pos := by
    show (n : Rat) / n = (1 : Nat)
    rw [div_self (Nat.cast_ne_zero.2 pos.ne'), Nat.cast_one]

theorem counts_float {bound : Nat} (small : bound < 2 ^ 53) : Counts Float bound where
  add_one _ within := Count.ofNat_add_one (by omega)
  div_self _ within pos := Count.ofNat_div_self pos (by omega)

variable {α : Type} [Scale α] {bound : Nat}

/-- So many ones sum up to their count. -/
theorem Counts.sum_ones (counts : Counts α bound) (n : Nat) (within : n ≤ bound) :
    (sum (List.replicate n (ofNat 1)) : α) = ofNat n := by
  induction n with
  | zero => rfl
  | succ n ih =>
      rw [List.replicate_succ', sum, List.foldl_append]
      show (sum (List.replicate n (ofNat 1)) + ofNat 1 : α) = _
      rw [ih (by omega), counts.add_one n within]

end Scale

variable {α κ : Type} [DecidableEq κ] [Scale α] {bound : Nat}

/-- The similarity of two sets is their common part by their union, and one if both are empty. -/
theorem Similarity.jaccard_eq_ratio (counts : Scale.Counts α bound) {left right : List κ}
    (within : unionCount left right ≤ bound) :
    (jaccard left right : α) =
      if unionCount left right = 0 then Scale.ofNat 1
      else Scale.ratio (commonCount left right) (unionCount left right) := by
  rw [jaccard]
  split
  next same =>
    split
    next => rfl
    next some => rw [same, Scale.ratio, counts.div_self _ within (Nat.pos_of_ne_zero some)]
  next differ =>
    have some : unionCount left right ≠ 0 := by
      have le := commonCount_le_unionCount left right
      omega
    rw [if_neg some]

namespace ComponentMatch

/-- The mean of credits is their sum by their count, and one if there are none. -/
theorem Credit.mean_eq_quotient (counts : Scale.Counts α bound) {credits : List Credit}
    (within : credits.length ≤ bound) :
    (mean credits : α) =
      if credits = [] then Scale.ofNat 1
      else Scale.sum (credits.map value) / Scale.ofNat credits.length := by
  rw [mean]
  split
  next all =>
    split
    next => rfl
    next some =>
      have full : ∀ credit ∈ credits, credit = .full := by simpa using all
      have ones : credits.map (value : Credit → α) =
          List.replicate credits.length (Scale.ofNat 1) := by
        rw [List.eq_replicate_of_mem full, List.map_replicate, List.length_replicate]
        rfl
      rw [ones, counts.sum_ones _ within,
        counts.div_self _ within (List.length_pos_iff.2 some)]
  next partly =>
    have some : credits ≠ [] := by
      rintro rfl
      exact partly rfl
    rw [if_neg some]

end ComponentMatch

end SqlGrader
