import Mathlib.Algebra.BigOperators.Group.List.Basic
import Mathlib.Algebra.GroupWithZero.Nat
import Mathlib.Data.List.Induction
import Mathlib.Data.List.Nodup
import SqlGrader.Keyed
/-!
# What stands under a name

A list that is made by putting values under names has its names in increasing order, so each stands
there once. Then looking a name up is membership, inserting under a new name adds one entry and
inserting under an old one replaces one, and changing the value under a name changes a sum over the
values by what it changes there.
-/

namespace SqlGrader.Keyed

variable {α : Type} {name other : String} {a b : α} {ps : Keyed α}

/-- Whether the names come in increasing order. -/
def Sorted (ps : Keyed α) : Prop := ps.Pairwise (·.1 < ·.1)

theorem eq_or_mem_of_mem_insert {p : String × α} (mem : p ∈ insert name a ps) :
    p = (name, a) ∨ p ∈ ps := by
  induction ps with
  | nil => exact .inl (List.mem_singleton.1 mem)
  | cons q qs ih =>
      rw [insert] at mem
      split at mem
      · exact List.mem_cons.1 mem
      split at mem
      · rcases List.mem_cons.1 mem with rfl | mem
        · exact .inr List.mem_cons_self
        · exact (ih mem).imp_right (List.mem_cons_of_mem q)
      · exact (List.mem_cons.1 mem).imp_right (List.mem_cons_of_mem q)

/-- Inserting keeps the names in order. -/
theorem Sorted.insert (sorted : Sorted ps) : Sorted (insert name a ps) := by
  induction ps with
  | nil => exact List.pairwise_singleton _ _
  | cons q qs ih =>
      obtain ⟨first, rest⟩ := List.pairwise_cons.1 sorted
      rw [Keyed.insert]
      split
      next before =>
        refine List.pairwise_cons.2 ⟨fun p mem => ?_, sorted⟩
        rcases List.mem_cons.1 mem with rfl | mem
        · exact before
        · exact String.lt_trans before (first p mem)
      split
      next after =>
        refine List.pairwise_cons.2 ⟨fun p mem => ?_, ih rest⟩
        rcases eq_or_mem_of_mem_insert mem with rfl | mem
        · exact after
        · exact first p mem
      next notBefore notAfter =>
        have same : q.1 = name :=
          String.le_antisymm (String.not_lt.1 notBefore) (String.not_lt.1 notAfter)
        exact List.pairwise_cons.2 ⟨fun p mem => same ▸ first p mem, rest⟩

theorem Sorted.nodup (sorted : Sorted ps) : (ps.map (·.1)).Nodup :=
  List.pairwise_map.2 (sorted.imp fun lt => String.ne_of_lt lt)

theorem mem_names_insert :
    other ∈ (insert name a ps).map (·.1) ↔ other = name ∨ other ∈ ps.map (·.1) := by
  induction ps with
  | nil => simp [insert]
  | cons q qs ih =>
      rw [insert]
      split
      · simp
      split
      · rw [List.map_cons, List.mem_cons, ih, List.map_cons, List.mem_cons]
        exact or_left_comm
      next notBefore notAfter =>
        have same : q.1 = name :=
          String.le_antisymm (String.not_lt.1 notBefore) (String.not_lt.1 notAfter)
        simp [same]

/-! ### Looking up -/

theorem mem_of_get? (found : get? name ps = some a) : (name, a) ∈ ps := by
  obtain ⟨p, first, rfl⟩ := Option.map_eq_some_iff.1 found
  have named : p.1 = name := by simpa using List.find?_some first
  exact named ▸ List.mem_of_find?_eq_some first

theorem get?_eq_none_iff : get? name ps = none ↔ name ∉ ps.map (·.1) := by
  simp only [get?, Option.map_eq_none_iff, List.find?_eq_none, beq_iff_eq, List.mem_map, not_exists,
    not_and]

theorem get?_eq_some_iff (nodup : (ps.map (·.1)).Nodup) :
    get? name ps = some a ↔ (name, a) ∈ ps := by
  refine ⟨mem_of_get?, fun mem => ?_⟩
  cases found : get? name ps with
  | none => exact absurd (List.mem_map_of_mem mem) (get?_eq_none_iff.1 found)
  | some b =>
      have same := List.inj_on_of_nodup_map nodup (mem_of_get? found) mem rfl
      rw [(Prod.mk.inj same).2]

theorem get?_insert (name other : String) (a : α) (ps : Keyed α) :
    get? other (insert name a ps) = if other = name then some a else get? other ps := by
  split
  next same => rw [same, get?_insert_self]
  next differs => exact get?_insert_of_ne differs a ps

/-- Sorted lists in which the same stands under every name are the same. -/
theorem Sorted.ext {qs : Keyed α} (left : Sorted ps) (right : Sorted qs)
    (same : ∀ name, get? name ps = get? name qs) : ps = qs := by
  have ordered : ps.Pairwise (·.1 < ·.1) := left
  refine List.Perm.eq_of_pairwise (fun p q _ _ before after => ?_) ordered right ?_
  · exact absurd (String.lt_trans before after) (String.lt_irrefl _)
  · refine (List.perm_ext_iff_of_nodup left.nodup.of_map right.nodup.of_map).2 fun p => ?_
    rw [← get?_eq_some_iff left.nodup, ← get?_eq_some_iff right.nodup, same]

/-! ### Inserting changes one entry -/

theorem insert_insert (name : String) (a b : α) (ps : Keyed α) :
    insert name b (insert name a ps) = insert name b ps := by
  induction ps with
  | nil => simp [insert]
  | cons q qs ih =>
      by_cases before : name < q.1
      · simp [insert, before]
      · by_cases after : q.1 < name
        · simp [insert, before, after, ih]
        · simp [insert, before, after]

/-- Changing a value twice is changing it once. -/
theorem update_update (name : String) (initial : α) (f g : α → α) (ps : Keyed α) :
    update name initial g (update name initial f ps) =
      update name initial (fun a => g (f a)) ps := by
  rw [update, update, insert_insert, get?_insert_self]
  rfl

theorem insert_perm_of_fresh (fresh : name ∉ ps.map (·.1)) :
    (insert name a ps).Perm ((name, a) :: ps) := by
  induction ps with
  | nil => exact .refl _
  | cons q qs ih =>
      obtain ⟨other, fresh⟩ := not_or.1 (mt List.mem_cons.2 fresh)
      rw [insert]
      split
      · exact .refl _
      split
      · exact ((ih fresh).cons q).trans (.swap _ _ _)
      next notBefore notAfter =>
        exact absurd (String.le_antisymm (String.not_lt.1 notAfter) (String.not_lt.1 notBefore))
          other

theorem insert_perm_of_get? (sorted : Sorted ps) (found : get? name ps = some b) (a : α) :
    ∃ rest, ps.Perm ((name, b) :: rest) ∧ (insert name a ps).Perm ((name, a) :: rest) := by
  induction ps with
  | nil => simp [get?] at found
  | cons q qs ih =>
      obtain ⟨first, ordered⟩ := List.pairwise_cons.1 sorted
      have mem := mem_of_get? found
      rw [insert]
      split
      next before =>
        rcases List.mem_cons.1 mem with rfl | mem
        · exact absurd before (String.lt_irrefl _)
        · exact absurd (String.lt_trans before (first _ mem)) (String.lt_irrefl _)
      split
      next after =>
        have differs : q.1 ≠ name := fun same => String.lt_irrefl name (same ▸ after)
        have later : get? name qs = some b := by simpa [get?, differs] using found
        obtain ⟨rest, old, new⟩ := ih ordered later
        exact ⟨q :: rest, (old.cons q).trans (.swap _ _ _), (new.cons q).trans (.swap _ _ _)⟩
      next notBefore notAfter =>
        have same : q.1 = name :=
          String.le_antisymm (String.not_lt.1 notBefore) (String.not_lt.1 notAfter)
        have here : q = (name, b) := by
          rcases List.mem_cons.1 mem with rfl | mem
          · rfl
          · exact absurd (first _ mem) (same ▸ String.lt_irrefl _)
        exact ⟨qs, .of_eq (by rw [here]), .refl _⟩

theorem Sorted.update {initial : α} {f : α → α} (sorted : Sorted ps) :
    Sorted (update name initial f ps) := sorted.insert

theorem get?_update (name other : String) (initial : α) (f : α → α) (ps : Keyed α) :
    get? other (update name initial f ps) =
      if other = name then some (f ((get? name ps).getD initial)) else get? other ps :=
  get?_insert _ _ _ _

/-- A sum over the values grows by what it grows by under the name. -/
theorem sum_update {M : Type} [AddCommMonoid M] {measure : α → M} {initial : α} {f : α → α}
    {more : M} (sorted : Sorted ps) (none : measure initial = 0)
    (grows : ∀ a, measure (f a) = measure a + more) :
    ((update name initial f ps).map (measure ·.2)).sum = (ps.map (measure ·.2)).sum + more := by
  rw [update]
  cases found : get? name ps with
  | none =>
      have perm := insert_perm_of_fresh (a := f initial) (get?_eq_none_iff.1 found)
      have sums := (perm.map (measure ·.2)).sum_eq
      rw [List.map_cons, List.sum_cons, grows, none, zero_add] at sums
      rw [Option.getD_none, sums, add_comm]
  | some b =>
      obtain ⟨rest, old, new⟩ := insert_perm_of_get? sorted found (f b)
      have before := (old.map (measure ·.2)).sum_eq
      have after := (new.map (measure ·.2)).sum_eq
      rw [List.map_cons, List.sum_cons] at before after
      rw [Option.getD_some, after, before, grows, add_right_comm]

/-- Values under different names are merged each into what stands under its name. -/
theorem get?_foldl_update {β : Type} {qs : List (String × β)} (nodup : (qs.map (·.1)).Nodup)
    (name : String) (initial : α) (f : β → α → α) (ps : Keyed α) :
    get? name (qs.foldl (fun done q => update q.1 initial (f q.2) done) ps) =
      ((get? name qs).map fun b => f b ((get? name ps).getD initial)).or (get? name ps) := by
  induction qs generalizing ps with
  | nil => rfl
  | cons q qs ih =>
      obtain ⟨fresh, rest⟩ := List.nodup_cons.1 nodup
      rw [List.foldl_cons, ih rest, get?_update]
      by_cases same : name = q.1
      · subst same
        have later : get? q.1 qs = none := get?_eq_none_iff.2 fresh
        have here : get? q.1 (q :: qs) = some q.2 := by simp [get?]
        simp [later, here]
      · have skipped : get? name (q :: qs) = get? name qs := by simp [get?, Ne.symm same]
        rw [skipped, if_neg same]

/-! ### Lists of values under names -/

/-- Of the values that are put under a name the last one is found, else what stood there before. -/
theorem get?_foldl_insert (name : String) (qs : List (String × α)) (ps : Keyed α) :
    get? name (qs.foldl (fun done q => insert q.1 q.2 done) ps) =
      (qs.reverse.lookup name).or (get? name ps) := by
  induction qs generalizing ps with
  | nil => rfl
  | cons q qs ih =>
      obtain ⟨key, a⟩ := q
      rw [List.foldl_cons, ih, get?_insert, List.reverse_cons, List.lookup_append, Option.or_assoc,
        List.lookup_cons]
      by_cases same : name = key
      · simp [same]
      · simp [same, beq_false_of_ne same]

theorem get?_ofList (name : String) (ps : List (String × α)) :
    get? name (ofList ps) = ps.reverse.lookup name :=
  (get?_foldl_insert name ps []).trans Option.or_none

theorem ofList_append_singleton (ps : List (String × α)) (p : String × α) :
    ofList (ps ++ [p]) = insert p.1 p.2 (ofList ps) := by
  rw [ofList, List.foldl_append]
  rfl

theorem sorted_ofList (ps : List (String × α)) : Sorted (ofList ps) := by
  induction ps using List.reverseRecOn with
  | nil => exact .nil
  | append_singleton ps p ih => exact ofList_append_singleton ps p ▸ ih.insert

theorem mem_names_ofList {ps : List (String × α)} :
    name ∈ (ofList ps).map (·.1) ↔ name ∈ ps.map (·.1) := by
  induction ps using List.reverseRecOn with
  | nil => rfl
  | append_singleton ps p ih =>
      rw [ofList_append_singleton, mem_names_insert, ih, List.map_append, List.mem_append,
        List.map_singleton, List.mem_singleton]
      exact or_comm

theorem mem_of_mem_ofList {ps : List (String × α)} {p : String × α} (mem : p ∈ ofList ps) :
    p ∈ ps := by
  induction ps using List.reverseRecOn with
  | nil => exact mem
  | append_singleton ps q ih =>
      rw [ofList_append_singleton] at mem
      rcases eq_or_mem_of_mem_insert mem with rfl | mem
      · exact List.mem_append_right _ (List.mem_singleton.2 rfl)
      · exact List.mem_append_left _ (ih mem)

/-- The last value under a name is kept. -/
theorem get?_ofList_append_cons (front : List (String × α)) {back : List (String × α)}
    (last : name ∉ back.map (·.1)) : get? name (ofList (front ++ (name, a) :: back)) = some a := by
  have later : back.reverse.lookup name = none := by
    refine List.lookup_eq_none_iff.2 fun p mem => bne_iff_ne.2 fun same => last ?_
    exact same ▸ List.mem_map_of_mem (List.mem_reverse.1 mem)
  rw [get?_ofList, List.reverse_append, List.reverse_cons, List.lookup_append, List.lookup_append,
    later, Option.none_or, List.lookup_cons_self, Option.some_or]

end SqlGrader.Keyed
