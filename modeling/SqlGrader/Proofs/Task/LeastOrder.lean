import Mathlib.Data.List.Nodup
import SqlGrader.Proofs.Task.Countdown
/-!
# The least order

A valid plan has orders in which each task comes after its dependencies. A plan is put into the one
that comes first by place of declaration: where another order leaves it, the other one goes on with
a task that was ready as well and that is declared later.
-/

namespace SqlGrader.Plan

variable {p : Plan} {placed order front back : List String} {waiting rest : List TaskSpec}
  {t u : TaskSpec} {name : String}

/-- Whether names are those of the tasks, each once and after its dependencies. -/
structure IsOrder (p : Plan) (order : List String) : Prop where
  perm : order.Perm p.names
  after : ∀ t ∈ p, ∀ d ∈ t.dependsOn, order.idxOf d < order.idxOf t.name

/-- The places at which the tasks of those names are declared. -/
def places (p : Plan) (order : List String) : List Nat := order.map fun name => p.names.idxOf name

/-- Whether of all orders this one comes first by place of declaration. -/
structure IsLeastOrder (p : Plan) (order : List String) : Prop extends IsOrder p order where
  least : ∀ other, p.IsOrder other → other ≠ order →
    List.Lex (· < ·) (p.places order) (p.places other)

/-! ### Orders by place -/

theorem follows_iff : p.Follows placed order ↔ ∀ front name back, order = front ++ name :: back →
    ∀ d ∈ p.dependenciesOf name, d ∈ placed ∨ d ∈ front := by
  induction order generalizing placed with
  | nil => simp [Follows]
  | cons n ns ih =>
      rw [Follows, ih]
      constructor
      · rintro ⟨here, later⟩ front name back parts d dep
        cases front with
        | nil =>
            obtain ⟨rfl, rfl⟩ := List.cons.inj parts
            exact .inl (here d dep)
        | cons m ms =>
            obtain ⟨rfl, parts'⟩ := List.cons.inj parts
            have known := later ms name back parts' d dep
            grind
      · intro all
        refine ⟨fun d dep => ?_, fun front name back parts d dep => ?_⟩
        · simpa using all [] n ns rfl d dep
        · have known := all (n :: front) name back (by rw [parts, List.cons_append]) d dep
          grind

theorem idxOf_lt_iff (nodup : (front ++ name :: back).Nodup) (d : String) :
    (front ++ name :: back).idxOf d < (front ++ name :: back).idxOf name ↔ d ∈ front := by
  have fresh : name ∉ front := by
    intro mem
    exact (List.nodup_append.1 nodup).2.2 name mem name (by simp) rfl
  rw [List.idxOf_append_of_notMem fresh, List.idxOf_cons_self]
  by_cases mem : d ∈ front
  · have inside := List.idxOf_lt_length_iff.2 mem
    rw [List.idxOf_append_of_mem mem]
    simp [mem, inside]
  · rw [List.idxOf_append_of_notMem mem]
    simp [mem]

/-- An order follows its dependencies if every task stands at a later place than they do. -/
theorem isOrder_iff (nodup : p.names.Nodup) :
    p.IsOrder order ↔ order.Perm p.names ∧ p.Follows [] order := by
  suffices same : order.Perm p.names →
      ((∀ t ∈ p, ∀ d ∈ t.dependsOn, order.idxOf d < order.idxOf t.name) ↔ p.Follows [] order) from
    ⟨fun is => ⟨is.perm, (same is.perm).1 is.after⟩, fun is => ⟨is.1, (same is.1).2 is.2⟩⟩
  intro perm
  rw [follows_iff]
  constructor
  · rintro after front name back rfl d dep
    obtain ⟨t, mem, rfl⟩ := List.mem_map.1 (perm.subset (by simp : name ∈ front ++ name :: back))
    rw [dependenciesOf_of_mem nodup mem] at dep
    exact .inr ((idxOf_lt_iff (perm.nodup_iff.2 nodup) d).1 (after t mem d dep))
  · intro follows t mem d dep
    obtain ⟨front, back, rfl⟩ := List.append_of_mem (perm.symm.subset (List.mem_map_of_mem mem))
    rw [idxOf_lt_iff (perm.nodup_iff.2 nodup)]
    rw [← dependenciesOf_of_mem nodup mem] at dep
    exact (follows front t.name back rfl d dep).resolve_left (by simp)

/-! ### The first task that is ready -/

theorem exists_of_takeReady? (taken : takeReady? placed waiting = some (t, rest)) :
    ∃ front back, waiting = front ++ t :: back ∧ rest = front ++ back ∧
      ∀ u ∈ front, ∃ d ∈ u.dependsOn, d ∉ placed := by
  induction waiting generalizing rest with
  | nil => simp [takeReady?] at taken
  | cons u us ih =>
      rw [takeReady?] at taken
      split at taken
      · cases taken
        exact ⟨[], us, rfl, rfl, by simp⟩
      next waits =>
        obtain ⟨⟨v, vs⟩, taken', same⟩ := Option.map_eq_some_iff.1 taken
        cases same
        obtain ⟨front, back, rfl, rfl, before⟩ := ih taken'
        exact ⟨u :: front, back, rfl, rfl, List.forall_mem_cons.2 ⟨by simpa using waits, before⟩⟩

/-- Tasks by place of declaration. -/
def Earlier (p : Plan) (t u : TaskSpec) : Prop := p.names.idxOf t.name < p.names.idxOf u.name

theorem pairwise_earlier (nodup : p.names.Nodup) : p.Pairwise p.Earlier := by
  rw [List.pairwise_iff_getElem]
  intro i j first second less
  have place : ∀ (k : Nat) (inside : k < p.length), p.names.idxOf p[k].name = k := by
    intro k inside
    have found := nodup.idxOf_getElem k (by simpa [names] using inside)
    simpa [names] using found
  rwa [Earlier, place, place]

/-- Of the tasks that are ready none is declared before the one that is taken. -/
theorem eq_or_earlier (sorted : waiting.Pairwise p.Earlier)
    (taken : takeReady? placed waiting = some (t, rest)) (mem : u ∈ waiting)
    (ready : ∀ d ∈ u.dependsOn, d ∈ placed) : u = t ∨ p.Earlier t u := by
  obtain ⟨front, back, rfl, -, before⟩ := exists_of_takeReady? taken
  rcases List.mem_append.1 mem with first | later
  · obtain ⟨d, dep, absent⟩ := before u first
    exact absurd (ready d dep) absent
  · rcases List.mem_cons.1 later with rfl | last
    · exact .inl rfl
    · exact .inr ((List.pairwise_cons.1 (List.pairwise_append.1 sorted).2.1).1 u last)

/-! ### The least order -/

/-- Any way to go on with the waiting tasks is the one that is taken, or comes after it. The
induction is on the tasks that are placed. -/
theorem placeFrom_least (nodup : p.names.Nodup) (inPlan : waiting ⊆ p)
    (sorted : waiting.Pairwise p.Earlier) {other : List String}
    (perm : other.Perm (waiting.map (·.name))) (follows : p.Follows placed other) :
    other = placeFrom placed waiting ∨
      List.Lex (· < ·) (p.places (placeFrom placed waiting)) (p.places other) := by
  induction other generalizing placed waiting with
  | nil =>
      obtain rfl := List.map_eq_nil_iff.1 perm.nil_eq.symm
      exact .inl (placeFrom_of_none rfl).symm
  | cons n ns ih =>
      obtain ⟨ready, later⟩ := follows
      obtain ⟨u, mem, rfl⟩ := List.mem_map.1 (perm.subset List.mem_cons_self)
      rw [dependenciesOf_of_mem nodup (inPlan mem)] at ready
      cases taken : takeReady? placed waiting with
      | none =>
          obtain ⟨d, dep, absent⟩ := takeReady?_none taken u mem
          exact absurd (ready d dep) absent
      | some found =>
          obtain ⟨t, rest⟩ := found
          rw [placeFrom_of_some taken]
          rcases eq_or_earlier sorted taken mem ready with rfl | earlier
          · obtain ⟨front, back, rfl, rfl, -⟩ := exists_of_takeReady? taken
            have fewer : (front ++ back).Sublist (front ++ u :: back) :=
              (List.sublist_cons_self u back).append_left front
            have perm' : ns.Perm ((front ++ back).map (·.name)) := by
              have moved : (front ++ u :: back).Perm (u :: (front ++ back)) := List.perm_middle
              exact (perm.trans (moved.map _)).cons_inv
            have inPlan' : front ++ back ⊆ p := fun v mem' => inPlan (fewer.subset mem')
            rcases ih inPlan' (sorted.sublist fewer) perm' later with same | less
            · exact .inl (congrArg (u.name :: ·) same)
            · exact .inr (.cons less)
          · -- The other order goes on with a task that was ready too and is declared later.
            exact .inr (.rel earlier)

/-- A valid plan whose names differ is put into the least order. -/
theorem order_isLeastOrder (nodup : p.names.Nodup) (valid : p.validate = .ok ()) :
    p.order = .ok (placeFrom [] p) ∧ p.IsLeastOrder (placeFrom [] p) := by
  obtain ⟨order, found, perm, follows⟩ := order_of_validate nodup valid
  have same : order = placeFrom [] p := by
    simp only [Plan.order, valid] at found
    split at found
    · exact (Except.ok.inj found).symm
    · cases found
  subst same
  refine ⟨found, (isOrder_iff nodup).2 ⟨perm, follows⟩, fun other is differs => ?_⟩
  obtain ⟨perm', follows'⟩ := (isOrder_iff nodup).1 is
  exact (placeFrom_least nodup (List.Subset.refl p) (pairwise_earlier nodup) perm'
    follows').resolve_left differs

end SqlGrader.Plan

namespace SqlGrader.Registry

variable {m : Type → Type} {V : Type}

/-- A registry of tasks in any order is put into the least order of its plan, unless validation
finds it wrong. The count-down goes on until no task is ready, by which time it has placed all of
them. Task graphs are put into the same order. -/
theorem order_least (name : String) {ts : List (Task m V)} {r : Registry m V}
    (made : ofTasks name ts = .ok r) :
    r.plan = ts.map (·.spec) ∧ (∀ e, r.order = .error e ↔ r.validate = .error e) ∧
      (r.run r.tasks.length r.countdown).ready = [] ∧
      (r.validate = .ok () →
        (r.run r.tasks.length r.countdown).placed.length = r.tasks.length) ∧
      (∀ order, r.order = .ok order → r.plan.IsLeastOrder order) ∧
      ∃ g, TaskGraph.ofTasks name ts = .ok g ∧ g.plan.order = r.order := by
  obtain ⟨indexed, rfl⟩ := indexed_of_ofTasks made
  obtain ⟨g, made', same⟩ := exists_ofTasks made
  have plans : g.plan = r.plan := congrArg _ same
  obtain ⟨placed, ready⟩ := run_countdown indexed
  have nodup := indexed.nodup
  have length : r.plan.length = r.tasks.length := List.length_map ..
  rw [placed, ready, order_eq indexed, validate_eq indexed]
  refine ⟨rfl, ?_, rfl, ?_, ?_, g, made', by rw [plans]⟩
  · intro e
    refine ⟨fun failed => ?_, Plan.order_of_invalid⟩
    cases valid : r.plan.validate with
    | ok => cases failed.symm.trans (Plan.order_isLeastOrder nodup valid).1
    | error e' =>
        obtain rfl := Except.error.inj ((Plan.order_of_invalid valid).symm.trans failed)
        rfl
  · intro valid
    have all := (Plan.order_isLeastOrder nodup valid).2.perm.length_eq
    rwa [Plan.names, List.length_map, length] at all
  · intro order found
    cases valid : r.plan.validate with
    | ok =>
        obtain ⟨found', least⟩ := Plan.order_isLeastOrder nodup valid
        obtain rfl := Except.ok.inj (found.symm.trans found')
        exact least
    | error e => cases found.symm.trans (Plan.order_of_invalid valid)

/-- Two tasks that may be carried out first, and one that lists a dependency twice. -/
def doubled : List (Task Id Unit) :=
  [("report", ["load", "grade", "load"]), ("grade", ["load"]), ("load", []), ("plan", [])].map
    fun t => ⟨⟨t.1, t.2, none⟩, fun _ => .value ()⟩

/-- Of the tasks that may be carried out first the one that is declared first is. -/
theorem order_least_doubled :
    ∃ r, ofTasks "run" doubled = .ok r ∧ r.plan = doubled.map (·.spec) ∧
      (∀ e, r.order = .error e ↔ r.validate = .error e) ∧
      (r.run r.tasks.length r.countdown).ready = [] ∧
      (r.validate = .ok () →
        (r.run r.tasks.length r.countdown).placed.length = r.tasks.length) ∧
      (∀ order, r.order = .ok order → r.plan.IsLeastOrder order) ∧
      ∃ g, TaskGraph.ofTasks "run" doubled = .ok g ∧ g.plan.order = r.order := by
  have made : ofTasks "run" doubled = .ok ⟨"run", doubled,
      [("grade", 1), ("load", 2), ("plan", 3), ("report", 0)]⟩ := rfl
  exact ⟨_, made, order_least "run" made⟩

end SqlGrader.Registry
