import Mathlib.Data.List.Chain
import Mathlib.Data.List.Nodup
import SqlGrader.Task.Plan
/-!
# Cycles that a search finds

The path that a search ends with leads along dependencies from a task back to it, and passes no
other task twice. So there is no cycle in a plan whose tasks have ranks that fall along
dependencies.
-/

namespace SqlGrader.Plan

variable {p : Plan} {fuel : Nat} {stack done path ds : List String} {name : String}

/-- A way along dependencies from a task back to it, on which no other task comes twice. -/
structure IsCycle (p : Plan) (path : List String) : Prop where
  steps : path.IsChain fun a b => b ∈ p.dependenciesOf a
  closes : path.head? = path.getLast?
  long : 2 ≤ path.length
  simple : path.dropLast.Nodup

/-- The tasks on the way of a search, the last one first: each is a dependency of the one that the
search came from, and none comes twice. -/
structure Trail (p : Plan) (stack : List String) : Prop where
  steps : stack.IsChain fun later earlier => later ∈ p.dependenciesOf earlier
  nodup : stack.Nodup

theorem Trail.push {d : String} (trail : Trail p stack) (fresh : d ∉ stack)
    (next : ∀ last ∈ stack.head?, d ∈ p.dependenciesOf last) : Trail p (d :: stack) :=
  ⟨trail.steps.cons next, List.nodup_cons.2 ⟨fresh, trail.nodup⟩⟩

/-- The way along a stack goes back to where the name is on it. -/
theorem closedPath_append {d : String} {front : List String} (first : d ∉ front)
    (back : List String) : closedPath d (front ++ d :: back) = (d :: front ++ [d]).reverse := by
  have other : ∀ e ∈ front, (e != d) = true := by
    rintro e mem
    exact bne_iff_ne.2 (ne_of_mem_of_not_mem mem first)
  have taken : (front ++ d :: back).takeWhile (· != d) = front := by
    rw [List.takeWhile_append_of_pos other, List.takeWhile_cons_of_neg (by simp), List.append_nil]
  simp [closedPath, taken]

/-- A dependency that is on the trail closes a cycle. -/
theorem Trail.isCycle {d : String} (trail : Trail p stack) (mem : d ∈ stack)
    (next : ∀ last ∈ stack.head?, d ∈ p.dependenciesOf last) : IsCycle p (closedPath d stack) := by
  obtain ⟨front, back, rfl, first⟩ := List.eq_append_cons_of_mem mem
  have steps : (d :: front ++ [d]).IsChain
      fun later earlier => later ∈ p.dependenciesOf earlier := by
    have part : (front ++ [d]).IsChain fun later earlier => later ∈ p.dependenciesOf earlier :=
      trail.steps.prefix ⟨back, by simp⟩
    refine part.cons fun last mem => next last ?_
    cases front <;> simpa using mem
  have nodup : (d :: front).Nodup := List.nodup_cons.2 ⟨first, (List.nodup_append.1 trail.nodup).1⟩
  rw [closedPath_append first]
  refine ⟨List.isChain_reverse.2 steps, by simp [-List.reverse_append], by simp, ?_⟩
  rw [List.dropLast_reverse, List.nodup_reverse]
  exact (List.perm_append_singleton d front).nodup_iff.2 nodup

/-- What is known of a search from one name that ends with a path. -/
def SearchFinds (p : Plan) (fuel : Nat) : Prop :=
  ∀ ⦃stack done path : List String⦄ ⦃name : String⦄, Trail p (name :: stack) →
    search p fuel stack done name = .error path → IsCycle p path

/-- A search from each of several dependencies finds a cycle if it ends with a path, as the search
from one name does. The induction is on the names. -/
theorem searchAll_finds (one : SearchFinds p fuel) (trail : Trail p stack)
    (next : ∀ d ∈ ds, ∀ last ∈ stack.head?, d ∈ p.dependenciesOf last)
    (found : searchAll p fuel stack done ds = .error path) : IsCycle p path := by
  induction ds generalizing done with
  | nil =>
      rw [searchAll] at found
      cases found
  | cons d ds ih =>
      have next' := fun e mem => next e (List.mem_cons_of_mem d mem)
      rw [searchAll] at found
      split at found
      next onStack =>
        cases found
        exact trail.isCycle (by simpa using onStack) (next d List.mem_cons_self)
      next offStack =>
      split at found
      · exact ih next' found
      · cases here : search p fuel stack done d with
        | error way =>
            rw [here] at found
            cases found
            exact one (trail.push (by simpa using offStack) (next d List.mem_cons_self)) here
        | ok middle =>
            rw [here] at found
            exact ih next' found

theorem search_finds (p : Plan) (fuel : Nat) : SearchFinds p fuel := by
  induction fuel with
  | zero =>
      intro stack done path name trail found
      rw [search] at found
      cases found
  | succ fuel ih =>
      intro stack done path name trail found
      rw [search] at found
      cases searched : searchAll p fuel (name :: stack) done (p.dependenciesOf name) with
      | error way =>
          rw [searched] at found
          cases found
          refine searchAll_finds ih trail (fun d mem last top => ?_) searched
          obtain rfl := Option.some.inj top
          exact mem
      | ok middle =>
          rw [searched] at found
          cases found

/-- What is reported as a cycle is one. -/
theorem isCycle_of_cycle? (found : p.cycle? = some path) : IsCycle p path := by
  unfold cycle? at found
  split at found
  next way searched =>
    cases found
    exact searchAll_finds (search_finds p _) ⟨.nil, .nil⟩ (by simp) searched
  · cases found

/-- Where ranks fall along dependencies no way leads back. -/
theorem not_isCycle_of_rank (rank : String → Nat)
    (falls : ∀ a, ∀ b ∈ p.dependenciesOf a, rank b < rank a) : ¬ IsCycle p path := by
  rintro ⟨steps, closes, long, -⟩
  have ranks : path.Pairwise fun a b => rank b < rank a := by
    have trans : IsTrans String fun a b => rank b < rank a := ⟨fun _ _ _ ab bc => bc.trans ab⟩
    exact List.isChain_iff_pairwise.1 (steps.imp falls)
  cases path with
  | nil => simp at long
  | cons a rest =>
      cases rest with
      | nil => simp at long
      | cons b rest =>
          have last : a ∈ b :: rest := by
            rw [List.head?_cons, List.getLast?_cons_cons] at closes
            exact List.mem_of_getLast? closes.symm
          exact lt_irrefl _ ((List.pairwise_cons.1 ranks).1 a last)

theorem cycle?_eq_none_of_rank (rank : String → Nat)
    (falls : ∀ a, ∀ b ∈ p.dependenciesOf a, rank b < rank a) : p.cycle? = none := by
  cases found : p.cycle? with
  | none => rfl
  | some path => exact absurd (isCycle_of_cycle? found) (not_isCycle_of_rank rank falls)

end SqlGrader.Plan
