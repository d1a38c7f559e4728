import Mathlib.Data.List.Flatten
import Mathlib.Data.List.Nodup
import Mathlib.Data.List.Perm.Basic
import SqlGrader.Benchmark.Pool
/-!
# Shares

The shares of the workers are the questions once each: a worker takes the places that leave its
number as the remainder, and every place leaves the number of exactly one worker.
-/

namespace SqlGrader.Pool

variable {α β : Type}

theorem strided_map (f : α → β) (stride skip : Nat) (l : List α) :
    strided stride skip (l.map f) = (strided stride skip l).map f := by
  induction l generalizing skip with
  | nil => rfl
  | cons a l ih => cases skip <;> simp [strided, ih]

/-- How many elements are taken. -/
theorem length_strided {stride skip : Nat} (small : skip < stride) (l : List α) :
    (strided stride skip l).length = (l.length + (stride - 1 - skip)) / stride := by
  induction l generalizing skip with
  | nil =>
      have few : stride - 1 - skip < stride := by omega
      rw [strided, List.length_nil, Nat.zero_add, Nat.div_eq_of_lt few]
  | cons a l ih =>
      cases skip with
      | zero =>
          have whole : (a :: l).length + (stride - 1 - 0) = l.length + stride := by
            simp only [List.length_cons]
            omega
          rw [strided, List.length_cons, ih (by omega), whole, Nat.sub_self,
            Nat.add_div_right _ (by omega)]
          rfl
      | succ skip =>
          rw [strided, ih (by omega), List.length_cons]
          congr 1
          omega

/-- Of elements numbered from `start` on, those are taken whose number leaves the remainder of the
first one taken. -/
theorem strided_zipIdx {stride skip : Nat} (small : skip < stride) (l : List α) (start : Nat) :
    strided stride skip (l.zipIdx start) =
      (l.zipIdx start).filter fun p => p.2 % stride == (start + skip) % stride := by
  induction l generalizing skip start with
  | nil => rfl
  | cons a l ih =>
      rw [List.zipIdx_cons]
      cases skip with
      | zero =>
          have next : start + 1 + (stride - 1) = start + stride := by omega
          rw [strided, List.filter_cons_of_pos (by simp), ih (by omega), next,
            Nat.add_mod_right]
          rfl
      | succ skip =>
          have other : start % stride ≠ (start + (skip + 1)) % stride := by
            intro same
            have zero := Nat.sub_mod_eq_zero_of_mod_eq same.symm
            rw [Nat.add_sub_cancel_left, Nat.mod_eq_of_lt small] at zero
            exact Nat.succ_ne_zero skip zero
          have next : start + (skip + 1) = start + 1 + skip := by omega
          rw [strided, List.filter_cons_of_neg (by simpa using other), ih (by omega), next]

/-- A list falls apart into the elements of each key. -/
theorem flatMap_filter_perm {keys : List Nat} (nodup : keys.Nodup) (key : α → Nat) (l : List α)
    (known : ∀ a ∈ l, key a ∈ keys) : (keys.flatMap fun k => l.filter (key · == k)).Perm l := by
  induction keys generalizing l with
  | nil => simp [List.eq_nil_iff_forall_not_mem.2 fun a mem => by simpa using known a mem]
  | cons k keys ih =>
      obtain ⟨fresh, nodup⟩ := List.nodup_cons.1 nodup
      have rest : (keys.flatMap fun k' => l.filter (key · == k')) =
          keys.flatMap fun k' => (l.filter (!key · == k)).filter (key · == k') := by
        refine List.flatMap_congr fun k' mem => ?_
        rw [List.filter_filter]
        refine List.filter_congr fun a _ => ?_
        by_cases is : key a = k'
        · simp [is, show k' ≠ k from fun same => fresh (same ▸ mem)]
        · simp [is]
      rw [List.flatMap_cons, rest]
      refine (List.Perm.append_left _ (ih nodup _ fun a mem => ?_)).trans
        (List.filter_append_perm (key · == k) l)
      obtain ⟨mem, other⟩ := List.mem_filter.1 mem
      exact (List.mem_cons.1 (known a mem)).resolve_left (by simpa using other)

/-- A worker takes the places that leave its number as the remainder. -/
theorem share_eq_filter {workers worker : Nat} (known : worker < workers)
    (questions : List Question) :
    share workers worker questions = (places questions).filter (·.1 % workers == worker) := by
  rw [share, places, strided_map, strided_zipIdx known, List.filter_map, Nat.zero_add,
    Nat.mod_eq_of_lt known]
  rfl

/-- The shares of all workers together are the questions with their places. -/
theorem shares_perm {workers : Nat} (some : 0 < workers) (questions : List Question) :
    ((List.range workers).flatMap (share workers · questions)).Perm (places questions) := by
  have each : ((List.range workers).flatMap (share workers · questions)) =
      (List.range workers).flatMap fun w => (places questions).filter (·.1 % workers == w) :=
    List.flatMap_congr fun w mem => share_eq_filter (List.mem_range.1 mem) questions
  rw [each]
  exact flatMap_filter_perm List.nodup_range _ _ fun p _ =>
    List.mem_range.2 (Nat.mod_lt _ some)

theorem length_share {workers worker : Nat} (known : worker < workers)
    (questions : List Question) :
    (share workers worker questions).length =
      (questions.length + (workers - 1 - worker)) / workers := by
  simp [share, length_strided known, places]

/-! ## Places -/

theorem map_snd_places (questions : List Question) :
    (places questions).map (·.2) = questions := by
  simp [places, Function.comp_def, List.zipIdx_map_fst]

theorem map_fst_places (questions : List Question) :
    (places questions).map (·.1) = List.range questions.length := by
  simp [places, Function.comp_def, List.zipIdx_map_snd, List.range_eq_range']

/-- Places come in increasing order. -/
theorem places_pairwise (questions : List Question) :
    (places questions).Pairwise (·.1 < ·.1) :=
  List.pairwise_map.1 (map_fst_places questions ▸ List.pairwise_lt_range)

/-- There is one question at a place. -/
theorem eq_of_place {questions : List Question} {p q : Nat × Question}
    (mem : p ∈ places questions) (mem' : q ∈ places questions) (same : p.1 = q.1) : p = q :=
  List.inj_on_of_nodup_map (map_fst_places questions ▸ List.nodup_range) mem mem' same

end SqlGrader.Pool
