import Mathlib.Data.List.Perm.Subperm
import SqlGrader.Task.Plan
/-!
# The order of a plan that is valid

A plan that validates can be carried out: its order holds every task once, each after all of its
dependencies. That no task is left waiting needs the search for cycles. A search that finds none
leaves behind the tasks in an order in which each stands in front of its dependencies, and along
that order, from its end, every task becomes ready.
-/

namespace SqlGrader.Plan

variable {p : Plan}

/-! ### Plans whose names differ -/

theorem task?_of_mem {t : TaskSpec} (nodup : p.names.Nodup) (mem : t ∈ p) :
    p.task? t.name = some t := by
  induction p with
  | nil => simp at mem
  | cons u us ih =>
      obtain ⟨fresh, nodup'⟩ := List.nodup_cons.1 nodup
      by_cases same : u.name = t.name
      · rcases List.mem_cons.1 mem with rfl | rest
        · simp [task?]
        · exact absurd (same.symm ▸ List.mem_map.2 ⟨t, rest, rfl⟩ : u.name ∈ us.map (·.name)) fresh
      · have rest : t ∈ us := (List.mem_cons.1 mem).resolve_left fun eq => same (by rw [eq])
        have found := ih nodup' rest
        simpa [task?, same] using found

theorem dependenciesOf_of_mem {t : TaskSpec} (nodup : p.names.Nodup) (mem : t ∈ p) :
    p.dependenciesOf t.name = t.dependsOn := by
  simp only [dependenciesOf, task?_of_mem nodup mem]

/-! ### What a search without a cycle leaves behind -/

/-- Names in an order in which each stands in front of its declared dependencies. -/
inductive Settled (p : Plan) : List String → Prop
  | nil : Settled p []
  | cons {name : String} {done : List String} (rest : Settled p done)
      (settled : ∀ d ∈ p.dependenciesOf name, p.declares d → d ∈ done) :
      Settled p (name :: done)

/-- The stack of a search holds different declared names, and with them the fuel suffices for the
names that are not on it. -/
structure Stacked (p : Plan) (fuel : Nat) (stack : List String) : Prop where
  nodup : stack.Nodup
  declared : ∀ n ∈ stack, p.declares n
  enough : p.length ≤ fuel + stack.length

theorem Stacked.push {fuel : Nat} {stack : List String} {name : String}
    (stacked : Stacked p (fuel + 1) stack) (declared : p.declares name) (fresh : name ∉ stack) :
    Stacked p fuel (name :: stack) where
  nodup := List.nodup_cons.2 ⟨fresh, stacked.nodup⟩
  declared := by
    intro n mem
    rcases List.mem_cons.1 mem with rfl | mem
    · exact declared
    · exact stacked.declared n mem
  enough := by
    have enough := stacked.enough
    simp only [List.length_cons]
    omega

/-- Where every name is on the stack there is no other one to search from. -/
theorem Stacked.fuel_ne_zero {stack : List String} {name : String}
    (declared : p.declares name) (fresh : name ∉ stack) : ¬ Stacked p 0 stack := by
  intro stacked
  have sub : (name :: stack) ⊆ p.names := by
    intro n mem
    rcases List.mem_cons.1 mem with rfl | mem
    · exact declares_iff.1 declared
    · exact declares_iff.1 (stacked.declared n mem)
  have len := (List.subperm_of_subset (List.nodup_cons.2 ⟨fresh, stacked.nodup⟩) sub).length_le
  have enough := stacked.enough
  simp only [List.length_cons, names, List.length_map] at len
  omega

/-- What is known of a search from one name that ends without a cycle. -/
def SearchSettles (p : Plan) (fuel : Nat) : Prop :=
  ∀ ⦃stack done done' : List String⦄ ⦃name : String⦄, Stacked p fuel stack → Settled p done →
    p.declares name → name ∉ stack → search p fuel stack done name = .ok done' →
    Settled p done' ∧ done ⊆ done' ∧ name ∈ done'

/-- A search from each of several names settles all that are declared, if the search from one
name does. The induction is on the names. -/
theorem searchAll_settles {fuel : Nat} {stack done done' ds : List String}
    (one : SearchSettles p fuel) (stacked : Stacked p fuel stack) (settled : Settled p done)
    (found : searchAll p fuel stack done ds = .ok done') :
    Settled p done' ∧ done ⊆ done' ∧ ∀ d ∈ ds, p.declares d → d ∈ done' := by
  induction ds generalizing done with
  | nil =>
      simp only [searchAll, Except.ok.injEq] at found
      subst found
      exact ⟨settled, List.Subset.refl _, by simp⟩
  | cons d ds ih =>
      rw [searchAll] at found
      split at found
      · cases found
      next offStack =>
      have fresh : d ∉ stack := by simpa using offStack
      split at found
      next skip =>
        obtain ⟨settles, sub, all⟩ := ih settled found
        refine ⟨settles, sub, ?_⟩
        intro e mem declared'
        rcases List.mem_cons.1 mem with rfl | mem
        · have old : e ∈ done := by simpa [declared'] using skip
          exact sub old
        · exact all e mem declared'
      next skip =>
        obtain ⟨new, declared'⟩ : d ∉ done ∧ p.declares d := by simpa using skip
        cases here : search p fuel stack done d with
        | error path =>
            rw [here] at found
            cases found
        | ok middle =>
            rw [here] at found
            obtain ⟨settled', sub', inPlan⟩ := one stacked settled declared' fresh here
            obtain ⟨settles, sub, all⟩ := ih settled' found
            refine ⟨settles, List.Subset.trans sub' sub, ?_⟩
            intro e mem known
            rcases List.mem_cons.1 mem with rfl | mem
            · exact sub inPlan
            · exact all e mem known

/-- A search from one name that ends without a cycle settles it. The induction is on the fuel,
which never runs out since the stack holds different names. -/
theorem search_settles (p : Plan) (fuel : Nat) : SearchSettles p fuel := by
  induction fuel with
  | zero =>
      intro stack done done' name stacked _ declared fresh _
      exact absurd stacked (Stacked.fuel_ne_zero declared fresh)
  | succ fuel ih =>
      intro stack done done' name stacked settled declared fresh found
      rw [search] at found
      cases searched : searchAll p fuel (name :: stack) done (p.dependenciesOf name) with
      | error path =>
          rw [searched] at found
          cases found
      | ok middle =>
          rw [searched] at found
          obtain ⟨settled', sub, deps⟩ :=
            searchAll_settles ih (stacked.push declared fresh) settled searched
          cases found
          exact ⟨.cons settled' deps, List.Subset.trans sub (List.subset_cons_self _ _),
            List.mem_cons_self⟩

/-- Without a cycle every declared name is settled. -/
theorem exists_settled (acyclic : p.cycle? = none) : ∃ done, Settled p done ∧ p.names ⊆ done := by
  unfold cycle? at acyclic
  split at acyclic
  · cases acyclic
  next done searched =>
    have start : Stacked p p.length [] := ⟨List.nodup_nil, by simp, by simp⟩
    obtain ⟨settled, _, all⟩ := searchAll_settles (search_settles p p.length) start .nil searched
    exact ⟨done, settled, fun n mem => all n mem (declares_iff.2 mem)⟩

/-! ### Placing the tasks -/

/-- Every name comes after its dependencies, which stand in front of it or have been placed. -/
def Follows (p : Plan) : (placed order : List String) → Prop
  | _, [] => True
  | placed, n :: ns => (∀ d ∈ p.dependenciesOf n, d ∈ placed) ∧ Follows p (n :: placed) ns

/-- A task that is ready has all of its dependencies placed. -/
theorem takeReady?_some {placed : List String} {waiting rest : List TaskSpec} {t : TaskSpec}
    (found : takeReady? placed waiting = some (t, rest)) :
    (t :: rest).Perm waiting ∧ ∀ d ∈ t.dependsOn, d ∈ placed := by
  induction waiting generalizing rest with
  | nil => simp [takeReady?] at found
  | cons u us ih =>
      rw [takeReady?] at found
      split at found
      next ready =>
        cases found
        refine ⟨.refl _, ?_⟩
        intro d dep
        simpa using List.all_eq_true.1 ready d dep
      next =>
        obtain ⟨⟨v, vs⟩, taken, same⟩ := Option.map_eq_some_iff.1 found
        cases same
        obtain ⟨perm, deps⟩ := ih taken
        exact ⟨(List.Perm.swap u v vs).trans (perm.cons u), deps⟩

/-- Where no task is ready each one waits for a dependency. -/
theorem takeReady?_none {placed : List String} {waiting : List TaskSpec}
    (found : takeReady? placed waiting = none) :
    ∀ t ∈ waiting, ∃ d ∈ t.dependsOn, d ∉ placed := by
  induction waiting with
  | nil => simp
  | cons u us ih =>
      rw [takeReady?] at found
      split at found
      · cases found
      next waits =>
        intro t mem
        rcases List.mem_cons.1 mem with rfl | mem
        · simpa using waits
        · exact ih (Option.map_eq_none_iff.1 found) t mem

/-- The placed tasks follow their dependencies. -/
theorem placeFrom_follows {placed : List String} {waiting : List TaskSpec}
    (lookup : ∀ t ∈ waiting, p.dependenciesOf t.name = t.dependsOn) :
    Follows p placed (placeFrom placed waiting) := by
  fun_induction placeFrom placed waiting with
  | case1 => trivial
  | case2 placed waiting t rest ready ih =>
      obtain ⟨perm, deps⟩ := takeReady?_some ready
      have lookup' : ∀ u ∈ t :: rest, p.dependenciesOf u.name = u.dependsOn :=
        fun u mem => lookup u (perm.mem_iff.1 mem)
      refine ⟨?_, ih fun u mem => lookup' u (List.mem_cons_of_mem t mem)⟩
      rw [lookup' t List.mem_cons_self]
      exact deps

/-- The placed tasks and those that never become ready are all tasks. -/
theorem placeFrom_stuck (placed : List String) (waiting : List TaskSpec) :
    ∃ rest : List TaskSpec, rest ⊆ waiting ∧
      (placeFrom placed waiting ++ rest.map (·.name)).Perm (waiting.map (·.name)) ∧
      ∀ t ∈ rest, ∃ d ∈ t.dependsOn, d ∉ placed ∧ d ∉ placeFrom placed waiting := by
  fun_induction placeFrom placed waiting with
  | case1 placed waiting ready =>
      refine ⟨waiting, List.Subset.refl _, .refl _, ?_⟩
      intro t mem
      obtain ⟨d, dep, absent⟩ := takeReady?_none ready t mem
      exact ⟨d, dep, absent, by simp⟩
  | case2 placed waiting t rest ready ih =>
      obtain ⟨stuck, sub, perm, waits⟩ := ih
      obtain ⟨perm', deps⟩ := takeReady?_some ready
      have names := perm'.map (fun u : TaskSpec => u.name)
      refine ⟨stuck, fun u mem => perm'.mem_iff.1 (List.mem_cons_of_mem t (sub mem)),
        (perm.cons t.name).trans names, ?_⟩
      intro u mem
      obtain ⟨d, dep, absent, later⟩ := waits u mem
      obtain ⟨other, notPlaced⟩ := not_or.1 (mt List.mem_cons.2 absent)
      exact ⟨d, dep, notPlaced, mt List.mem_cons.1 (not_or.2 ⟨other, later⟩)⟩

/-! ### Valid plans -/

/-- A plan is valid if its dependencies are declared and no search finds a cycle. -/
theorem validate_ok {p : Plan} (valid : p.validate = .ok ()) :
    (∀ t ∈ p, ∀ d ∈ t.dependsOn, p.declares d) ∧ p.cycle? = none := by
  unfold validate at valid
  split at valid
  · cases valid
  next known =>
    split at valid
    · cases valid
    next acyclic =>
      refine ⟨?_, acyclic⟩
      intro t mem d dep
      have missing : p.missingDependency? t = none := by
        simpa using List.findSome?_eq_none_iff.1 known t mem
      simpa using List.find?_eq_none.1 missing d dep

/-- Of a valid plan every settled name is placed. The induction is on the settled names from the
last one on, so the dependencies of a name are placed before it. -/
theorem Settled.placed {done : List String} {rest : List TaskSpec} (nodup : p.names.Nodup)
    (settled : Settled p done) (declared : ∀ t ∈ p, ∀ d ∈ t.dependsOn, p.declares d)
    (sub : rest ⊆ p) (perm : (placeFrom [] p ++ rest.map (·.name)).Perm p.names)
    (waits : ∀ t ∈ rest, ∃ d ∈ t.dependsOn, d ∉ placeFrom [] p) :
    ∀ n ∈ done, n ∈ p.names → n ∈ placeFrom [] p := by
  induction settled with
  | nil => simp
  | cons _ deps ih =>
      intro n mem named
      rcases List.mem_cons.1 mem with rfl | mem
      · rcases List.mem_append.1 (perm.mem_iff.2 named) with placed | left
        · exact placed
        · obtain ⟨t, waiting, rfl⟩ := List.mem_map.1 left
          obtain ⟨d, dep, absent⟩ := waits t waiting
          have declared' := declared t (sub waiting) d dep
          rw [dependenciesOf_of_mem nodup (sub waiting)] at deps
          exact absurd (ih d (deps d dep declared') (declares_iff.1 declared')) absent
      · exact ih n mem named

/-- A valid plan whose names differ has an order. It holds every name once, each after its
dependencies. -/
theorem order_of_validate {p : Plan} (nodup : p.names.Nodup) (valid : p.validate = .ok ()) :
    ∃ order, p.order = .ok order ∧ order.Perm p.names ∧ Follows p [] order := by
  obtain ⟨declared, acyclic⟩ := validate_ok valid
  obtain ⟨done, settled, all⟩ := exists_settled acyclic
  obtain ⟨rest, sub, perm, waits⟩ := placeFrom_stuck [] p
  have placed := settled.placed nodup declared sub perm fun t mem =>
    let ⟨d, dep, _, absent⟩ := waits t mem
    ⟨d, dep, absent⟩
  have stuck : rest = [] := by
    cases rest with
    | nil => rfl
    | cons t ts =>
        have inPlan : t.name ∈ p.names := List.mem_map.2 ⟨t, sub List.mem_cons_self, rfl⟩
        have disjoint := (List.nodup_append.1 (perm.nodup_iff.2 nodup)).2.2
        exact absurd rfl (disjoint _ (placed _ (all inPlan) inPlan) _
          (List.mem_map.2 ⟨t, List.mem_cons_self, rfl⟩))
  subst stuck
  simp only [List.map_nil, List.append_nil] at perm
  have len : (placeFrom [] p).length = p.length := by
    simpa [names] using perm.length_eq
  refine ⟨placeFrom [] p, ?_, perm, ?_⟩
  · simp only [order, valid, len, if_pos]
  · exact placeFrom_follows fun t mem => dependenciesOf_of_mem nodup mem

theorem order_of_invalid {p : Plan} {e : PlanError} (invalid : p.validate = .error e) :
    p.order = .error e := by
  simp only [order, invalid]

end SqlGrader.Plan
