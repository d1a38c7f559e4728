import SqlGrader.Data.RowComparison
/-!
# The order of rows

Cells are ordered by kind and then by content, rows cell by cell. This is a total order in which
only equal rows are equivalent, so the rows of a result have one arrangement in order.
-/

namespace SqlGrader

namespace Cell

mutual

theorem compare_swap (a b : Cell) : compare a b = (compare b a).swap := by
  cases a with
  | null => cases b <;> rfl
  | bool a =>
      cases b with
      | bool b => exact Std.OrientedOrd.eq_swap
      | _ => rfl
  | int a =>
      cases b with
      | int b => exact Std.OrientedOrd.eq_swap
      | _ => rfl
  | decimal a =>
      cases b with
      | decimal b => exact Std.OrientedOrd.eq_swap
      | _ => rfl
  | text a =>
      cases b with
      | text b => exact Std.OrientedOrd.eq_swap
      | _ => rfl
  | temporal a =>
      cases b with
      | temporal b => exact Std.OrientedOrd.eq_swap
      | _ => rfl
  | array a =>
      cases b with
      | array b => exact compareAll_swap a b
      | _ => rfl

theorem compareAll_swap (as bs : List Cell) : compareAll as bs = (compareAll bs as).swap := by
  cases as with
  | nil => cases bs <;> rfl
  | cons a as =>
      cases bs with
      | nil => rfl
      | cons b bs =>
          rw [compareAll, compareAll, Ordering.swap_then, compare_swap a b, compareAll_swap as bs]

end

/-- Cells of different kinds are ordered by their kinds. -/
theorem compare_of_rank_ne {a b : Cell} (differ : a.rank ≠ b.rank) :
    compare a b = Ord.compare a.rank b.rank := by
  cases a <;> cases b <;> first | rfl | exact absurd rfl differ

/-- Kinds come first in the order. -/
theorem rank_le {a b : Cell} (le : (compare a b).isLE) : a.rank ≤ b.rank := by
  by_cases same : a.rank = b.rank
  · exact Nat.le_of_eq same
  · rw [compare_of_rank_ne same] at le
    exact Nat.isLE_compare.1 le

mutual

theorem compare_trans (a b c : Cell) (left : (compare a b).isLE) (right : (compare b c).isLE) :
    (compare a c).isLE := by
  have first := rank_le left
  have second := rank_le right
  by_cases same : a.rank = c.rank
  · have middle : a.rank = b.rank := by omega
    -- All three are of one kind.
    cases a <;> cases b <;> simp only [rank, reduceCtorEq, Nat.reduceEqDiff] at middle <;>
      cases c <;> simp only [rank, reduceCtorEq, Nat.reduceEqDiff] at same
    case array.array.array as bs cs => exact compareAll_trans as bs cs left right
    all_goals exact Std.TransOrd.isLE_trans left right
  · rw [compare_of_rank_ne same, Nat.isLE_compare]
    exact Nat.le_trans first second

theorem compareAll_trans (as bs cs : List Cell) (left : (compareAll as bs).isLE)
    (right : (compareAll bs cs).isLE) : (compareAll as cs).isLE := by
  cases as with
  | nil => cases cs <;> rfl
  | cons a as =>
      cases bs with
      | nil => cases left
      | cons b bs =>
          cases cs with
          | nil => cases right
          | cons c cs =>
              rw [compareAll, Ordering.isLE_then_iff_or] at left right ⊢
              obtain less | ⟨same, rest⟩ := left
              · left
                have before : (compare b c).isLE := by
                  obtain less' | ⟨same', -⟩ := right
                  · rw [less']; rfl
                  · rw [same']; rfl
                apply (Ordering.isLE_iff_eq_lt_or_eq_eq.1
                  (compare_trans a b c (by rw [less]; rfl) before)).resolve_right
                intro equal
                obtain rfl := (compare_eq_iff a c).1 equal
                rw [compare_swap, less] at before
                cases before
              · obtain rfl := (compare_eq_iff a b).1 same
                exact right.imp_right fun ⟨same', rest'⟩ =>
                  ⟨same', compareAll_trans as bs cs rest rest'⟩

end

instance : Std.TransCmp compareAll where
  eq_swap := compareAll_swap _ _
  isLE_trans := compareAll_trans _ _ _

end Cell

namespace Rows

variable {r s t : List Cell} {rows rows' : List (List Cell)}

theorem le_trans (left : le r s) (right : le s t) : le r t := Cell.compareAll_trans r s t left right

theorem le_total (r s : List Cell) : (le r s || le s r) = true := by
  rw [le, le, Cell.compareAll_swap s r]
  cases Cell.compareAll r s <;> rfl

theorem le_antisymm (left : le r s) (right : le s r) : r = s := by
  rw [le, Cell.compareAll_swap] at right
  rw [le] at left
  rw [← Cell.compareAll_eq_iff]
  cases order : Cell.compareAll r s with
  | eq => rfl
  | lt => rw [order] at right; cases right
  | gt => rw [order] at left; cases left

/-- Rows in order that are the same rows are in the same order. -/
theorem eq_of_perm (perm : rows.Perm rows') (left : rows.Pairwise (le · ·))
    (right : rows'.Pairwise (le · ·)) : rows = rows' :=
  perm.eq_of_pairwise (fun _ _ _ _ => le_antisymm) left right

theorem sorted_mergeSort (rows : List (List Cell)) : (rows.mergeSort le).Pairwise (le · ·) := by
  apply List.pairwise_mergeSort
  · intro r s t
    exact le_trans
  · exact le_total

/-- Sorting forgets the order in which rows came. -/
theorem mergeSort_congr (perm : rows.Perm rows') : rows.mergeSort le = rows'.mergeSort le := by
  apply eq_of_perm _ (sorted_mergeSort rows) (sorted_mergeSort rows')
  exact (List.mergeSort_perm rows le).trans (perm.trans (List.mergeSort_perm rows' le).symm)

end Rows

end SqlGrader
