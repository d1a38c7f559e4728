import Mathlib.Logic.Relation
import SqlGrader.Proofs.Task.Marks
/-!
# What validation decides

A plan is valid if every dependency is declared and no task depends on itself, directly or through
others. Validation tells which of the two is wrong, and shows where: it names a task with a
dependency that is missing, or a cycle. A search that finds no cycle leaves behind the tasks in an
order in which dependencies come later, so no way leads back to where it started.
-/

namespace SqlGrader.Plan

variable {p : Plan} {path : List String}

/-- Whether every dependency is declared. -/
def IsClosed (p : Plan) : Prop := ∀ t ∈ p, ∀ d ∈ t.dependsOn, d ∈ p.names

def Depends (p : Plan) (task dependency : String) : Prop := dependency ∈ p.dependenciesOf task

/-- Whether no task depends on itself, directly or through others. -/
def IsAcyclic (p : Plan) : Prop := ∀ name, ¬ Relation.TransGen p.Depends name name

/-! ### Cycles -/

/-- The first task of a cycle depends on itself. -/
theorem IsCycle.not_isAcyclic (cycle : IsCycle p path) : ¬ p.IsAcyclic := by
  obtain ⟨steps, closes, long, -⟩ := cycle
  match path with
  | [] => simp at long
  | [a] => simp at long
  | a :: b :: rest =>
      have last : (b :: rest).getLast (by simp) = a := by
        rw [List.head?_cons, List.getLast?_eq_some_getLast (by simp)] at closes
        simpa using (Option.some.inj closes).symm
      obtain ⟨first, others⟩ := List.isChain_cons_cons.1 steps
      have back := List.relationReflTransGen_of_exists_isChain_cons rest others last
      exact fun acyclic => acyclic a (.head' first back)

theorem dependenciesOf_of_undeclared {name : String} (undeclared : ¬ p.declares name) :
    p.dependenciesOf name = [] := by
  have missing : p.task? name = none := by
    simpa [task?, declares] using undeclared
  simp [dependenciesOf, missing]

theorem acc_of_undeclared {name : String} (undeclared : ¬ p.declares name) :
    Acc (Function.swap p.Depends) name := by
  refine .intro _ fun d dep => ?_
  have listed : d ∈ p.dependenciesOf name := dep
  rw [dependenciesOf_of_undeclared undeclared] at listed
  cases listed

/-- Every way down from a settled name ends. The induction is on the settled names from the last one
on. -/
theorem Settled.acc {done : List String} (settled : Settled p done) :
    ∀ name ∈ done, Acc (Function.swap p.Depends) name := by
  induction settled with
  | nil => simp
  | @cons name done rest deps ih =>
      intro other mem
      rcases List.mem_cons.1 mem with rfl | mem
      · refine .intro _ fun d dep => ?_
        by_cases declared : p.declares d
        · exact ih d (deps d dep declared)
        · exact acc_of_undeclared declared
      · exact ih other mem

theorem isAcyclic_of_cycle? (none : p.cycle? = none) : p.IsAcyclic := by
  obtain ⟨done, settled, all⟩ := exists_settled none
  have ends : WellFounded (Function.swap p.Depends) := by
    refine ⟨fun name => ?_⟩
    by_cases declared : p.declares name
    · exact settled.acc name (all (declares_iff.1 declared))
    · exact acc_of_undeclared declared
  intro name around
  have back := Relation.transGen_swap.2 around
  exact ends.transGen.asymmetric name name back back

/-- The search finds a cycle unless there is none. -/
theorem cycle?_eq_none_iff : p.cycle? = none ↔ p.IsAcyclic := by
  refine ⟨isAcyclic_of_cycle?, fun acyclic => ?_⟩
  cases found : p.cycle? with
  | none => rfl
  | some path => exact absurd acyclic (isCycle_of_cycle? found).not_isAcyclic

/-! ### Missing dependencies -/

theorem missingDependency?_eq_none_iff {t : TaskSpec} :
    p.missingDependency? t = none ↔ ∀ d ∈ t.dependsOn, d ∈ p.names := by
  simp [missingDependency?, ← declares_iff]

theorem unknownDependency?_eq_none_iff : p.unknownDependency? = none ↔ p.IsClosed := by
  simp only [unknownDependency?, List.findSome?_eq_none_iff, Option.map_eq_none_iff,
    missingDependency?_eq_none_iff]
  rfl

/-- What is reported as missing is listed by the task and not declared. -/
theorem of_unknownDependency? {e : PlanError} (found : p.unknownDependency? = some e) :
    ∃ t ∈ p, ∃ d ∈ t.dependsOn, d ∉ p.names ∧ e = .unknownDependency t.name d := by
  obtain ⟨t, mem, here⟩ := List.exists_of_findSome?_eq_some found
  obtain ⟨d, missing, rfl⟩ := Option.map_eq_some_iff.1 here
  have undeclared := List.find?_some missing
  rw [Bool.not_eq_true', ← Bool.not_eq_true, declares_iff] at undeclared
  exact ⟨t, mem, d, List.mem_of_find?_eq_some missing, undeclared, rfl⟩

/-! ### Validation -/

/-- What comes of validation. -/
inductive Validated (p : Plan) : Except PlanError Unit → Prop
  | ok (closed : p.IsClosed) (acyclic : p.IsAcyclic) : Validated p (.ok ())
  | unknown {t : TaskSpec} {d : String} (mem : t ∈ p) (dep : d ∈ t.dependsOn)
      (undeclared : d ∉ p.names) : Validated p (.error (.unknownDependency t.name d))
  | cycle {path : List String} (closed : p.IsClosed) (cycle : IsCycle p path) :
      Validated p (.error (.cycle path))

theorem validate_validated (p : Plan) : Validated p p.validate := by
  unfold validate
  cases missing : p.unknownDependency? with
  | some e =>
      obtain ⟨t, mem, d, dep, undeclared, rfl⟩ := of_unknownDependency? missing
      exact .unknown mem dep undeclared
  | none =>
      have closed := unknownDependency?_eq_none_iff.1 missing
      cases found : p.cycle? with
      | some path => exact .cycle closed (isCycle_of_cycle? found)
      | none => exact .ok closed (cycle?_eq_none_iff.1 found)

/-- Whether an answer tells if a plan is valid, and shows what is wrong with it if it is not. What
is missing is told before a cycle. -/
structure Decides (p : Plan) (answer : Except PlanError Unit) : Prop where
  ok_iff : answer = .ok () ↔ p.IsClosed ∧ p.IsAcyclic
  unknown_iff : (∃ task d, answer = .error (.unknownDependency task d)) ↔ ¬ p.IsClosed
  unknown : ∀ task d, answer = .error (.unknownDependency task d) →
    ∃ t ∈ p, t.name = task ∧ d ∈ t.dependsOn ∧ d ∉ p.names
  cycle_iff : (∃ path, answer = .error (.cycle path)) ↔ p.IsClosed ∧ ¬ p.IsAcyclic
  cycle : ∀ path, answer = .error (.cycle path) → IsCycle p path

theorem Validated.decides {answer : Except PlanError Unit} (validated : Validated p answer) :
    p.Decides answer := by
  cases validated with
  | ok closed acyclic =>
      exact ⟨by simp [closed, acyclic], by simp [closed], by simp, by simp [acyclic], by simp⟩
  | @unknown t d mem dep undeclared =>
      have broken : ¬ p.IsClosed := fun closed => undeclared (closed t mem d dep)
      refine ⟨by simp [broken], by simp [broken], ?_, by simp [broken], by simp⟩
      rintro _ _ ⟨⟩
      exact ⟨t, mem, rfl, dep, undeclared⟩
  | cycle closed cycle =>
      have cyclic := cycle.not_isAcyclic
      refine ⟨by simp [cyclic], by simp [closed], by simp, by simp [closed, cyclic], ?_⟩
      rintro _ ⟨⟩
      exact cycle

end SqlGrader.Plan

namespace SqlGrader.Registry

variable {m : Type → Type} {V : Type}

/-- Of a registry of tasks in any order it is decided whether its plan is valid: every dependency is
declared and no task depends on itself through others. If not, a task with a missing dependency is
named, or the way around a cycle. Task graphs are validated alike. -/
theorem validate_decides (name : String) {ts : List (Task m V)} {r : Registry m V}
    (made : ofTasks name ts = .ok r) :
    r.plan = ts.map (·.spec) ∧ r.plan.Decides r.validate ∧
      ∃ g, TaskGraph.ofTasks name ts = .ok g ∧ g.plan.validate = r.validate := by
  obtain ⟨indexed, rfl⟩ := indexed_of_ofTasks made
  obtain ⟨g, made', same⟩ := exists_ofTasks made
  have plans : g.plan = r.plan := congrArg _ same
  rw [validate_eq indexed, plans.symm]
  exact ⟨plans.trans rfl, (Plan.validate_validated g.plan).decides, g, made', rfl⟩

/-- Two tasks that wait for each other, and one before them that lists a dependency twice. -/
def entangled : List (Task Id Unit) :=
  [("report", ["load", "grade", "load"]), ("load", []), ("grade", ["load", "plan"]),
    ("plan", ["grade"])].map fun t => ⟨⟨t.1, t.2, none⟩, fun _ => .value ()⟩

/-- The two tasks that wait for each other are found from the one before them. -/
theorem validate_decides_entangled :
    ∃ r, ofTasks "run" entangled = .ok r ∧ r.plan = entangled.map (·.spec) ∧
      r.plan.Decides r.validate ∧
        ∃ g, TaskGraph.ofTasks "run" entangled = .ok g ∧ g.plan.validate = r.validate := by
  have made : ofTasks "run" entangled = .ok ⟨"run", entangled,
      [("grade", 2), ("load", 1), ("plan", 3), ("report", 0)]⟩ := rfl
  exact ⟨_, made, validate_decides "run" made⟩

end SqlGrader.Registry
