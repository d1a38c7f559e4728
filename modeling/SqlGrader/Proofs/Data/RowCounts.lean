import Mathlib.Data.List.Induction
import Mathlib.Data.Multiset.UnionInter
import SqlGrader.Data.RowCounts
import SqlGrader.Proofs.Data.RowOrder
/-!
# Counted rows

The counts of a result hold every row of it once, in order, with the number of times that it
occurs, so two results have the same counts exactly if they are the same multiset. The rows that one
result counts beyond another one are the difference of the two multisets in order, and the sample is
the front of it.
-/

namespace SqlGrader.RowCounts

variable {row : List Cell} {rows taken : List (List Cell)} {counts counts' : RowCounts}

theorem countOf_cons (row r : List Cell) (n : Nat) (counts : RowCounts) :
    countOf row ((r, n) :: counts) = if row = r then n else countOf row counts := by
  rw [countOf, countOf, List.lookup_cons]
  split <;> simp_all

/-- Rows in increasing order. -/
def Sorted (counts : RowCounts) : Prop :=
  counts.Pairwise fun p q => Cell.compareAll p.1 q.1 = .lt

theorem ne_of_before {r s : List Cell} (before : Cell.compareAll r s = .lt) : r ≠ s := by
  intro same
  rw [(Cell.compareAll_eq_iff r s).2 same] at before
  cases before

theorem countOf_of_before (before : ∀ p ∈ counts, Cell.compareAll row p.1 = .lt) :
    countOf row counts = 0 := by
  induction counts with
  | nil => rfl
  | cons p counts ih =>
      obtain ⟨first, rest⟩ := List.forall_mem_cons.1 before
      rw [countOf_cons, if_neg (ne_of_before first), ih rest]

/-- A row before the first one is before all of them. -/
theorem Sorted.before {p : List Cell × Nat} (sorted : Sorted (p :: counts))
    (first : Cell.compareAll row p.1 = .lt) : ∀ q ∈ p :: counts, Cell.compareAll row q.1 = .lt := by
  refine List.forall_mem_cons.2 ⟨first, fun q mem => ?_⟩
  exact Std.TransCmp.lt_trans first ((List.pairwise_cons.1 sorted).1 q mem)

/-! ### Counting one more row -/

theorem mem_add {p : List Cell × Nat} (mem : p ∈ add row counts) :
    (p.1 = row ∨ ∃ q ∈ counts, q.1 = p.1) := by
  induction counts with
  | nil => exact .inl (by rw [List.mem_singleton.1 mem])
  | cons q counts ih =>
      rw [add] at mem
      split at mem
      next =>
        obtain rfl | mem := List.mem_cons.1 mem
        · exact .inl rfl
        · exact .inr ⟨p, mem, rfl⟩
      next =>
        obtain rfl | mem := List.mem_cons.1 mem
        · exact .inr ⟨q, List.mem_cons_self, rfl⟩
        · exact .inr ⟨p, List.mem_cons_of_mem q mem, rfl⟩
      next =>
        obtain rfl | mem := List.mem_cons.1 mem
        · exact .inr ⟨_, List.mem_cons_self, rfl⟩
        · exact (ih mem).imp_right fun ⟨q', mem', same⟩ => ⟨q', List.mem_cons_of_mem q mem', same⟩

theorem Sorted.add (sorted : Sorted counts) : Sorted (add row counts) := by
  induction counts with
  | nil => exact List.pairwise_singleton _ _
  | cons q counts ih =>
      obtain ⟨first, rest⟩ := List.pairwise_cons.1 sorted
      rw [RowCounts.add]
      split
      next before => exact List.pairwise_cons.2 ⟨sorted.before before, sorted⟩
      next => exact List.pairwise_cons.2 ⟨first, rest⟩
      next after =>
        refine List.pairwise_cons.2 ⟨fun p mem => ?_, ih rest⟩
        obtain same | ⟨q', mem', same⟩ := mem_add mem
        · rw [same]
          exact Std.OrientedCmp.lt_of_gt after
        · rw [← same]
          exact first q' mem'

theorem pos_add (positive : ∀ p ∈ counts, 0 < p.2) : ∀ p ∈ add row counts, 0 < p.2 := by
  induction counts with
  | nil => simp [add]
  | cons q counts ih =>
      obtain ⟨first, rest⟩ := List.forall_mem_cons.1 positive
      rw [add]
      split
      · exact List.forall_mem_cons.2 ⟨Nat.one_pos, positive⟩
      · exact List.forall_mem_cons.2 ⟨Nat.succ_pos _, rest⟩
      · exact List.forall_mem_cons.2 ⟨first, ih rest⟩

theorem countOf_add (sorted : Sorted counts) (r : List Cell) :
    countOf r (add row counts) = countOf r counts + if r = row then 1 else 0 := by
  induction counts with
  | nil =>
      rw [add, countOf_cons]
      split <;> rfl
  | cons q counts ih =>
      rw [add]
      split
      next before =>
        rw [countOf_cons r row]
        split
        next same => rw [same, countOf_of_before (sorted.before before)]
        next => rfl
      next equal =>
        obtain rfl := (Cell.compareAll_eq_iff _ _).1 equal
        rw [countOf_cons, countOf_cons]
        split <;> rfl
      next after =>
        have ne := ne_of_before (Std.OrientedCmp.lt_of_gt after)
        rw [countOf_cons, countOf_cons, ih (List.pairwise_cons.1 sorted).2]
        split
        next same => rw [same, if_neg ne, Nat.add_zero]
        next => rfl

/-- What counts say about the rows that were counted. -/
structure IsCountOf (rows : List (List Cell)) (counts : RowCounts) : Prop where
  sorted : Sorted counts
  positive : ∀ p ∈ counts, 0 < p.2
  countOf (row : List Cell) : countOf row counts = rows.count row

theorem isCountOf_ofRows (rows : List (List Cell)) : IsCountOf rows (ofRows rows) := by
  induction rows using List.reverseRecOn with
  | nil => exact ⟨List.Pairwise.nil, by simp [ofRows], fun row => rfl⟩
  | append_singleton rows row ih =>
      rw [ofRows, List.foldl_append]
      refine ⟨ih.sorted.add, pos_add ih.positive, fun r => ?_⟩
      have one : ([row] : List (List Cell)).count r = if r = row then 1 else 0 := by
        rw [List.count_singleton]
        simp only [beq_iff_eq, eq_comm (a := row)]
      rw [List.count_append, one, ← ih.countOf]
      exact countOf_add ih.sorted r

/-! ### Equal counts -/

theorem mem_iff (sorted : Sorted counts) (positive : ∀ p ∈ counts, 0 < p.2) {n : Nat} :
    (row, n) ∈ counts ↔ countOf row counts = n ∧ 0 < n := by
  induction counts with
  | nil =>
      refine ⟨nofun, fun ⟨zero, positive⟩ => ?_⟩
      rw [← zero] at positive
      exact absurd positive (Nat.lt_irrefl 0)
  | cons q counts ih =>
      obtain ⟨first, rest⟩ := List.pairwise_cons.1 sorted
      obtain ⟨pos, positive⟩ := List.forall_mem_cons.1 positive
      rw [List.mem_cons, countOf_cons, ih rest positive]
      split
      next same =>
        have none := countOf_of_before first
        rw [same, none, Prod.ext_iff]
        grind
      next differ =>
        rw [or_iff_right fun same => differ (congrArg Prod.fst same)]

theorem Sorted.nodup (sorted : Sorted counts) : counts.Nodup :=
  sorted.imp fun before same => ne_of_before before (congrArg Prod.fst same)

/-- Counts of the same rows are the same list. -/
theorem IsCountOf.unique (left : IsCountOf rows counts) (right : IsCountOf rows counts') :
    counts = counts' := by
  have perm : counts.Perm counts' := by
    rw [List.perm_ext_iff_of_nodup left.sorted.nodup right.sorted.nodup]
    intro p
    rw [mem_iff left.sorted left.positive, mem_iff right.sorted right.positive, left.countOf,
      right.countOf]
  apply perm.eq_of_pairwise _ left.sorted right.sorted
  intro p q _ _ before after
  exact absurd (Std.TransCmp.lt_trans before after) (by
    rw [(Cell.compareAll_eq_iff _ _).2 rfl]
    nofun)

theorem ofRows_eq_iff : ofRows rows = ofRows taken ↔ rows.Perm taken := by
  have left := isCountOf_ofRows rows
  have right := isCountOf_ofRows taken
  rw [List.perm_iff_count]
  constructor
  · intro same row
    rw [← left.countOf, ← right.countOf, same]
  · intro same
    apply left.unique
    exact ⟨right.sorted, right.positive, fun row => (right.countOf row).trans (same row).symm⟩

/-! ### What is counted beyond -/

/-- The rows that are counted beyond others, in order. -/
def excess (left right : RowCounts) : List (List Cell) :=
  left.flatMap fun p => List.replicate (p.2 - countOf p.1 right) p.1

theorem fill_take (limit : Nat) (row : List Cell) (times : Nat) (rows : List (List Cell)) :
    fill limit row times (rows.take limit) = (rows ++ List.replicate times row).take limit := by
  induction times generalizing rows with
  | zero => rw [fill, List.replicate_zero, List.append_nil]
  | succ times ih =>
      have room : (if (rows.take limit).length < limit then rows.take limit ++ [row]
          else rows.take limit) = (rows ++ [row]).take limit := by
        split
        next short =>
          rw [List.length_take] at short
          rw [List.take_of_length_le (by omega), List.take_of_length_le (by simp; omega)]
        next full =>
          rw [List.length_take] at full
          rw [List.take_append_of_le_length (by omega)]
      rw [fill, room, ih, List.append_assoc, List.replicate_succ, List.singleton_append]

theorem foldl_addBeyond (limit : Nat) (left right : RowCounts) (rows : List (List Cell)) :
    left.foldl (addBeyond limit right) ⟨rows.length, rows.take limit⟩ =
      ⟨(rows ++ excess left right).length, (rows ++ excess left right).take limit⟩ := by
  induction left generalizing rows with
  | nil => simp [excess]
  | cons p left ih =>
      have next : addBeyond limit right ⟨rows.length, rows.take limit⟩ p =
          ⟨(rows ++ List.replicate (p.2 - countOf p.1 right) p.1).length,
            (rows ++ List.replicate (p.2 - countOf p.1 right) p.1).take limit⟩ := by
        rw [addBeyond, fill_take, List.length_append, List.length_replicate]
      rw [List.foldl_cons, next, ih, excess, excess, List.flatMap_cons, List.append_assoc]

/-- Counting finds the number of rows in excess, and the first of them. -/
theorem beyond_eq (limit : Nat) (left right : RowCounts) :
    beyond limit left right =
      ⟨(excess left right).length, (excess left right).take limit⟩ := by
  have found := foldl_addBeyond limit left right []
  rwa [List.take_nil, List.nil_append] at found

theorem sorted_excess (sorted : Sorted counts) (right : RowCounts) :
    (excess counts right).Pairwise (Rows.le · ·) := by
  rw [excess, List.pairwise_flatMap]
  constructor
  · intro p _
    rw [List.pairwise_replicate]
    exact .inr (by rw [Rows.le, (Cell.compareAll_eq_iff _ _).2 rfl]; rfl)
  · apply sorted.imp
    intro p q before r memLeft s memRight
    rw [List.eq_of_mem_replicate memLeft, List.eq_of_mem_replicate memRight, Rows.le, before]
    rfl

theorem count_excess (sorted : Sorted counts) (right : RowCounts) (row : List Cell) :
    (excess counts right).count row = countOf row counts - countOf row right := by
  induction counts with
  | nil => simp [excess, countOf]
  | cons p counts ih =>
      obtain ⟨first, rest⟩ := List.pairwise_cons.1 sorted
      rw [excess, List.flatMap_cons, List.count_append, List.count_replicate, countOf_cons]
      have others := ih rest
      rw [excess] at others
      rw [others]
      split
      next same =>
        rw [beq_iff_eq] at same
        rw [if_pos same.symm, ← same, countOf_of_before first, Nat.zero_sub, Nat.add_zero]
      next differ =>
        rw [beq_iff_eq] at differ
        rw [if_neg (Ne.symm differ), Nat.zero_add]

/-- The rows in excess are the difference of the two results, in order. -/
theorem excess_ofRows (rows taken : List (List Cell)) :
    excess (ofRows rows) (ofRows taken) = (Rows.without rows taken).mergeSort Rows.le := by
  have left := isCountOf_ofRows rows
  have right := isCountOf_ofRows taken
  apply Rows.eq_of_perm _ (sorted_excess left.sorted _) (Rows.sorted_mergeSort _)
  refine List.Perm.trans ?_ (List.mergeSort_perm _ _).symm
  rw [List.perm_iff_count]
  intro row
  rw [count_excess left.sorted, left.countOf, right.countOf, Rows.without, ← List.diff_eq_foldl,
    List.count_diff]

theorem beyond_ofRows (limit : Nat) (rows taken : List (List Cell)) :
    beyond limit (ofRows rows) (ofRows taken) = Rows.surplus limit rows taken := by
  rw [beyond_eq, excess_ofRows, Rows.surplus, List.length_mergeSort]

end SqlGrader.RowCounts
