import Mathlib.Data.Rat.Cast.Defs
import SqlGrader.Score.Similarity
/-!
# Sets with the same members

Lists are compared as sets, so neither order nor repetitions matter: two of them are fully similar
exactly if they have the same members.
-/

namespace SqlGrader.Similarity

variable {α κ : Type} [DecidableEq κ] [Scale α] {a : κ} {xs left right : List κ}

theorem mem_distinct : a ∈ distinct xs ↔ a ∈ xs := by
  induction xs with
  | nil => rfl
  | cons x xs ih =>
      rw [distinct]
      split
      next again =>
        rw [ih, List.mem_cons]
        exact ⟨.inr, fun mem => mem.elim (fun here => here ▸ again) id⟩
      next => rw [List.mem_cons, List.mem_cons, ih]

theorem commonCount_le_unionCount (left right : List κ) :
    commonCount left right ≤ unionCount left right := by
  have common : commonCount left right ≤ (distinct left).length := List.length_filter_le _ _
  unfold unionCount
  omega

theorem commonCount_eq_unionCount_iff :
    commonCount left right = unionCount left right ↔ ∀ a, a ∈ left ↔ a ∈ right := by
  rw [commonCount, unionCount]
  constructor
  · intro same a
    have common := List.length_filter_le (· ∈ right) (distinct left)
    have none : ((distinct right).filter (· ∉ left)).length = 0 := by omega
    have all : ((distinct left).filter (· ∈ right)).length = (distinct left).length := by omega
    refine ⟨fun mem => ?_, fun mem => ?_⟩
    · simpa using List.length_filter_eq_length_iff.1 all a (mem_distinct.2 mem)
    · simpa using List.filter_eq_nil_iff.1 (List.eq_nil_of_length_eq_zero none) a
        (mem_distinct.2 mem)
  · intro same
    have common : (distinct left).filter (· ∈ right) = distinct left :=
      List.filter_eq_self.2 fun a mem => by simpa using (same a).1 (mem_distinct.1 mem)
    have none : (distinct right).filter (· ∉ left) = [] :=
      List.filter_eq_nil_iff.2 fun a mem => by simpa using (same a).2 (mem_distinct.1 mem)
    rw [common, none, List.length_nil, Nat.add_zero]

/-- Sets with the same members are fully similar. -/
theorem jaccard_of_same (same : ∀ a, a ∈ left ↔ a ∈ right) :
    (jaccard left right : α) = Scale.ofNat 1 := by
  rw [jaccard, if_pos (commonCount_eq_unionCount_iff.2 same)]

theorem jaccard_self (xs : List κ) : (jaccard xs xs : α) = Scale.ofNat 1 :=
  jaccard_of_same fun _ => Iff.rfl

/-- Only sets with the same members are fully similar. -/
theorem jaccard_eq_one_iff : (jaccard left right : Rat) = 1 ↔ ∀ a, a ∈ left ↔ a ∈ right := by
  rw [← commonCount_eq_unionCount_iff, jaccard]
  split
  next same => exact iff_of_true Nat.cast_one same
  next differ =>
    refine iff_of_false (fun full => differ ?_) differ
    change (commonCount left right : Rat) / (unionCount left right : Rat) = 1 at full
    exact Nat.cast_injective (eq_of_div_eq_one full)

end SqlGrader.Similarity
