import SqlGrader.Proofs.Data.RowCounts
import SqlGrader.Score.ExecutionMatch
/-!
# What a comparison of results says

Results are compared as multisets. The answer does not depend on the order of rows, and exchanging
the results exchanges what is missing and what is extra. Where two results of one length differ, as
many rows are missing as are extra, and the samples are the first rows of the differences.
-/

namespace SqlGrader

variable {α : Type} [Scale α]

namespace Rows

variable {rows taken rows' taken' : List (List Cell)}

/-- What is left is the difference of multisets. -/
theorem coe_without (rows taken : List (List Cell)) :
    (without rows taken : Multiset (List Cell)) = rows - taken := by
  have count (row : List Cell) :
      (without rows taken).count row = rows.count row - taken.count row := by
    rw [without, ← List.diff_eq_foldl, List.count_diff]
  ext row
  rw [Multiset.count_sub, Multiset.coe_count, Multiset.coe_count, Multiset.coe_count]
  convert count row

theorem without_perm (left : rows'.Perm rows) (right : taken'.Perm taken) :
    (without rows' taken').Perm (without rows taken) := by
  rw [← Multiset.coe_eq_coe, coe_without, coe_without, Multiset.coe_eq_coe.2 left,
    Multiset.coe_eq_coe.2 right]

theorem surplus_congr (limit : Nat) (left : rows'.Perm rows) (right : taken'.Perm taken) :
    surplus limit rows' taken' = surplus limit rows taken := by
  have perm := without_perm left right
  rw [surplus, surplus, perm.length_eq, mergeSort_congr perm]

/-- What is left and what both have together make up the first result. -/
theorem length_without (rows taken : List (List Cell)) :
    (without rows taken).length + ((rows : Multiset (List Cell)) ∩ taken).card = rows.length := by
  have parts := congrArg Multiset.card
    (Multiset.sub_add_inter (rows : Multiset (List Cell)) taken)
  rwa [Multiset.card_add, ← coe_without, Multiset.coe_card, Multiset.coe_card] at parts

/-- Of two results of one length as much is missing as is extra. -/
theorem length_without_comm (lengths : rows.length = taken.length) :
    (without rows taken).length = (without taken rows).length := by
  have left := length_without rows taken
  have right := length_without taken rows
  rw [Multiset.inter_comm] at right
  omega

/-- Different results of one length leave something. -/
theorem without_pos (lengths : rows.length = taken.length) (differ : ¬ rows.Perm taken) :
    0 < (without rows taken).length := by
  apply Nat.pos_of_ne_zero
  intro none
  apply differ
  rw [← Multiset.coe_eq_coe]
  apply Multiset.eq_of_le_of_card_le
  · have parts := Multiset.sub_add_inter (rows : Multiset (List Cell)) taken
    rw [← coe_without, List.length_eq_zero_iff.1 none, Multiset.coe_nil,
      Multiset.zero_add] at parts
    rw [← parts]
    exact Multiset.inter_le_right
  · rw [Multiset.coe_card, Multiset.coe_card, lengths]

end Rows

/-- The answer for the results in exchanged roles. -/
def RowVerdict.exchanged : RowVerdict α → RowVerdict α
  | bothEmpty => bothEmpty
  | same => same
  | differentCount => differentCount
  | differentRows missing extra overlap => differentRows extra missing overlap

/-- A sample of a multiset of rows: the first rows of it in order, as many as the limit allows. -/
def IsSample (limit : Nat) (rows : Multiset (List Cell)) (sample : List (List Cell)) : Prop :=
  ∃ all : List (List Cell), (all : Multiset (List Cell)) = rows ∧ all.Pairwise (Rows.le · ·) ∧
    sample = all.take limit

namespace Rows

variable {reference predicted reference' predicted' : List (List Cell)}

theorem isSample_surplus (limit : Nat) (rows taken : List (List Cell)) :
    IsSample limit (rows - taken : Multiset (List Cell)) (surplus limit rows taken).sample := by
  refine ⟨(without rows taken).mergeSort le, ?_, sorted_mergeSort _, rfl⟩
  rw [← coe_without, Multiset.coe_eq_coe]
  exact List.mergeSort_perm _ _

/-- The order of rows does not matter. -/
theorem compare_congr (limit : Nat) (left : reference'.Perm reference)
    (right : predicted'.Perm predicted) :
    (compare limit reference' predicted' : RowVerdict α) = compare limit reference predicted := by
  have perm : reference'.isPerm predicted' = reference.isPerm predicted := by
    rw [Bool.eq_iff_iff, List.isPerm_iff, List.isPerm_iff]
    exact ⟨fun same => left.symm.trans (same.trans right),
      fun same => left.trans (same.trans right.symm)⟩
  simp only [compare, left.length_eq, right.length_eq, left.isEmpty_eq, perm,
    surplus_congr limit left right, surplus_congr limit right left]

theorem compare_of_perm (limit : Nat) (same : reference.Perm predicted) :
    (compare limit reference predicted : RowVerdict α) =
      if reference.isEmpty then .bothEmpty else .same := by
  rw [compare, if_neg (not_not.2 same.length_eq), if_pos (List.isPerm_iff.2 same)]

/-- As many rows are missing as are extra, and no more than there are. -/
theorem compare_of_differ (limit : Nat) (lengths : reference.length = predicted.length)
    (differ : ¬ reference.Perm predicted) :
    (compare limit reference predicted : RowVerdict α) =
      .differentRows (surplus limit reference predicted) (surplus limit predicted reference)
        (Scale.ratio (reference.length - (without reference predicted).length)
          (reference.length + (without reference predicted).length)) := by
  have some : reference.isEmpty = false := by
    rw [List.isEmpty_eq_false_iff]
    rintro rfl
    exact differ (List.length_eq_zero_iff.1 lengths.symm ▸ .refl _)
  have within := length_without reference predicted
  have comm := length_without_comm lengths
  rw [compare, if_neg (not_not.2 lengths), if_neg (by simp [some]),
    if_neg (mt List.isPerm_iff.1 differ)]
  simp only [surplus]
  congr 2
  omega

/-- Exchanging the results exchanges what is missing and what is extra. -/
theorem compare_exchanged (limit : Nat) (reference predicted : List (List Cell)) :
    (compare limit predicted reference : RowVerdict α) =
      (compare limit reference predicted).exchanged := by
  by_cases lengths : reference.length = predicted.length
  · by_cases same : reference.Perm predicted
    · rw [compare_of_perm limit same.symm, compare_of_perm limit same, same.isEmpty_eq]
      split <;> rfl
    · rw [compare_of_differ limit lengths same,
        compare_of_differ limit lengths.symm (mt List.Perm.symm same), RowVerdict.exchanged,
        length_without_comm lengths, lengths]
  · rw [compare, if_pos (Ne.symm lengths), compare, if_pos lengths, RowVerdict.exchanged]

/-- Counting gives the answer, and no difference in it is negative. -/
theorem compare?_eq (limit : Nat) (reference predicted : List (List Cell)) :
    RowCounts.compare? limit reference predicted =
      some (compare limit reference predicted : RowVerdict α) := by
  have within := length_without reference predicted
  simp only [RowCounts.compare?, RowCounts.beyond_ofRows, RowCounts.ofRows_eq_iff]
  rw [compare]
  by_cases lengths : reference.length = predicted.length
  · rw [if_neg (not_not.2 lengths), if_neg (not_not.2 lengths)]
    split
    · rfl
    next some =>
      by_cases same : reference.Perm predicted
      · rw [if_pos same, if_pos (List.isPerm_iff.2 same)]
      · have positive : 0 < reference.length :=
          List.length_pos_iff.2 (mt List.isEmpty_iff.2 some)
        rw [if_neg same, if_neg (mt List.isPerm_iff.1 same), if_neg, if_neg]
        · simp only [surplus]; omega
        · simp only [surplus]; omega
  · rw [if_pos lengths, if_pos lengths]

/-- What the comparison of two results says. -/
structure ComparesMultisets (limit : Nat) (reference predicted : List (List Cell))
    (v : RowVerdict α) : Prop where
  isSame : v.isSame ↔ reference.Perm predicted
  /-- The order of rows changes nothing. -/
  order (reference' predicted' : List (List Cell)) (left : reference'.Perm reference)
    (right : predicted'.Perm predicted) : compare limit reference' predicted' = v
  exchanged : compare limit predicted reference = v.exchanged
  /-- Where as many rows are not the same, each sample comes from a difference of multisets. -/
  differ (lengths : reference.length = predicted.length) (differ : ¬ reference.Perm predicted) :
    ∃ m missing extra, 1 ≤ m ∧ m ≤ reference.length ∧
      v = .differentRows ⟨m, missing⟩ ⟨m, extra⟩
        (Scale.ratio (reference.length - m) (reference.length + m)) ∧
      (reference - predicted : Multiset (List Cell)).card = m ∧
      (predicted - reference : Multiset (List Cell)).card = m ∧
      IsSample limit (reference - predicted) missing ∧ missing.length = min limit m ∧
      IsSample limit (predicted - reference) extra ∧ extra.length = min limit m

theorem length_sample (limit : Nat) (rows taken : List (List Cell)) :
    (surplus limit rows taken).sample.length = min limit (without rows taken).length := by
  rw [surplus, List.length_take, List.length_mergeSort]

theorem card_sub (rows taken : List (List Cell)) :
    (rows - taken : Multiset (List Cell)).card = (without rows taken).length := by
  rw [← coe_without, Multiset.coe_card]

theorem isSame_compare_iff (limit : Nat) (reference predicted : List (List Cell)) :
    (compare limit reference predicted : RowVerdict α).isSame ↔ reference.Perm predicted := by
  by_cases same : reference.Perm predicted
  · rw [compare_of_perm limit same]
    split <;> exact iff_of_true rfl same
  · by_cases lengths : reference.length = predicted.length
    · rw [compare_of_differ limit lengths same]
      exact iff_of_false nofun same
    · rw [compare, if_pos lengths]
      exact iff_of_false nofun same

theorem comparesMultisets (limit : Nat) (reference predicted : List (List Cell)) :
    ComparesMultisets limit reference predicted
      (compare limit reference predicted : RowVerdict α) := by
  refine ⟨isSame_compare_iff limit reference predicted,
    fun _ _ left right => compare_congr limit left right,
    compare_exchanged limit reference predicted, fun lengths differ => ?_⟩
  have within := length_without reference predicted
  have comm := length_without_comm lengths
  refine ⟨(without reference predicted).length, (surplus limit reference predicted).sample,
    (surplus limit predicted reference).sample, without_pos lengths differ, by omega, ?_,
    card_sub reference predicted, ?_, isSample_surplus limit reference predicted,
    length_sample limit reference predicted, isSample_surplus limit predicted reference, ?_⟩
  · rw [compare_of_differ limit lengths differ]
    simp only [surplus, comm]
  · rw [card_sub, comm]
  · rw [length_sample, comm]

/-- Results are compared as multisets, and counting their rows comes to the same answer without a
negative difference. No order of rows changes the answer or its details. -/
theorem compare_multisets (limit : Nat) (reference predicted : List (List Cell)) :
    RowCounts.compare? limit reference predicted =
        some (compare limit reference predicted : RowVerdict α) ∧
      ComparesMultisets limit reference predicted
        (compare limit reference predicted : RowVerdict α) ∧
      ∀ reference' predicted' : List (List Cell), reference'.Perm reference →
        predicted'.Perm predicted →
        ExecutionMatch.detailsJson reference' predicted' (compare limit reference' predicted') =
          ExecutionMatch.detailsJson reference predicted (compare limit reference predicted) := by
  refine ⟨compare?_eq limit reference predicted, comparesMultisets limit reference predicted,
    fun reference' predicted' left right => ?_⟩
  rw [compare_congr limit left right, ExecutionMatch.detailsJson, ExecutionMatch.detailsJson,
    left.length_eq, right.length_eq]

end Rows

end SqlGrader
