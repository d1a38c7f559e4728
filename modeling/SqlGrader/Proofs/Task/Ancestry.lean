import Mathlib.Data.List.Find
import SqlGrader.Proofs.Task.Execution
/-!
# What the result of a task depends on

The result of a task follows from the results of its dependencies, so it follows
from the tasks that it depends on, directly or through others. Two valid graphs
that have these tasks in common give the task the same result: neither the order
of declaration nor any other task matters.

Bodies act on a state that the two graphs need not have in common. Only those of
the common tasks must compute their outcomes from what they see.
-/

namespace SqlGrader

variable {σ τ V : Type}

/-- The tasks that `task` depends on, directly or through others, and itself. -/
inductive Plan.Reaches (p : Plan) (task : String) : String → Prop
  | refl : Reaches p task task
  | step {name dependency : String} (before : Reaches p task name)
      (depends : dependency ∈ p.dependenciesOf name) : Reaches p task dependency

/-- Whether the outcome of the body follows from what it sees, on any state. -/
def Task.Computes (t : Task (StateM σ) V) (f : Inputs V → Attempt TaskError V) : Prop :=
  ∀ inputs s, (t.body inputs s).1 = f inputs

namespace TaskGraph

variable {g : TaskGraph (StateM σ) V} {h : TaskGraph (StateM τ) V} {inputs : Inputs V}
  {results results' : List (String × TaskResult V)} {log : List (Invocation V)}

/-- Whether both graphs declare a task of that name with the same dependencies, in
the same order, and bodies that compute the same outcomes. -/
def SameTask (g : TaskGraph (StateM σ) V) (h : TaskGraph (StateM τ) V) (name : String) : Prop :=
  ∃ t ∈ g.tasks, ∃ u ∈ h.tasks, t.spec.name = name ∧ u.spec.name = name ∧
    t.spec.dependsOn = u.spec.dependsOn ∧ ∃ f, t.Computes f ∧ u.Computes f

/-- Whether the graphs have a task and all that it depends on in common. -/
def SameAncestry (g : TaskGraph (StateM σ) V) (h : TaskGraph (StateM τ) V) (task : String) :
    Prop :=
  ∀ name, g.plan.Reaches task name → SameTask g h name

/-! ### One task -/

/-- The result of a task whose body computes `f`. -/
def resultOf (inputs : Inputs V) (results : List (String × TaskResult V)) (t : TaskSpec)
    (f : Inputs V → Attempt TaskError V) : TaskResult V :=
  match failedDependency? results t with
  | some d => .error (.dependencyFailed d)
  | none => .ofAttempt (f (visibleInputs inputs results t))

theorem runTask_of_computes {t : Task (StateM σ) V} {f : Inputs V → Attempt TaskError V}
    (computes : t.Computes f) (s : σ) :
    (runTask inputs results t s).1 = resultOf inputs results t.spec f := by
  unfold runTask resultOf
  cases failedDependency? results t.spec with
  | some d => rfl
  | none => exact congrArg TaskResult.ofAttempt (computes (visibleInputs inputs results t.spec) s)

theorem failedDependency?_congr {t u : TaskSpec} (deps : t.dependsOn = u.dependsOn)
    (same : ∀ d ∈ t.dependsOn, results.lookup d = results'.lookup d) :
    failedDependency? results t = failedDependency? results' u := by
  rw [failedDependency?, failedDependency?, ← deps]
  exact List.find?_congr fun d dep => by rw [same d dep]

theorem visibleInputs_congr {t u : TaskSpec} (deps : t.dependsOn = u.dependsOn)
    (same : ∀ d ∈ t.dependsOn, results.lookup d = results'.lookup d) :
    visibleInputs inputs results t = visibleInputs inputs results' u := by
  rw [visibleInputs, visibleInputs, ← deps]
  exact List.foldl_ext _ _ _ fun seen d dep => by rw [same d dep]

/-- Only the results of its dependencies enter the result of a task. -/
theorem resultOf_congr {t u : TaskSpec} (deps : t.dependsOn = u.dependsOn)
    (same : ∀ d ∈ t.dependsOn, results.lookup d = results'.lookup d)
    (f : Inputs V → Attempt TaskError V) :
    resultOf inputs results t f = resultOf inputs results' u f := by
  rw [resultOf, resultOf, failedDependency?_congr deps same, visibleInputs_congr deps same]

/-! ### A whole run -/

/-- Whether every task that was dealt with has the result that it would have after
all results. -/
def Explained (g : TaskGraph (StateM σ) V) (inputs : Inputs V)
    (results : List (String × TaskResult V)) : Prop :=
  ∀ t ∈ g.tasks, t.spec.name ∈ results.map (·.1) →
    ∃ s, results.lookup t.spec.name = some (runTask inputs results t s).1

theorem runTask_append {t : Task (StateM σ) V} {more : List (String × TaskResult V)}
    (placed : ∀ d ∈ t.spec.dependsOn, d ∈ results.map (·.1)) :
    runTask inputs (results ++ more) t = runTask inputs results t := by
  have same : ∀ d ∈ t.spec.dependsOn, (results ++ more).lookup d = results.lookup d :=
    fun d dep => lookup_append_of_mem (placed d dep)
  rw [runTask, runTask, failedDependency?_congr rfl same, visibleInputs_congr rfl same]

/-- One more task dealt with keeps the earlier results explained. -/
theorem Explained.append (run : Run g inputs results log) (explained : Explained g inputs results)
    {t : Task (StateM σ) V} (mem : t ∈ g.tasks) (fresh : t.spec.name ∉ results.map (·.1))
    (placed : ∀ d ∈ t.spec.dependsOn, d ∈ results.map (·.1)) (s : σ) :
    Explained g inputs (results ++ [(t.spec.name, (runTask inputs results t s).1)]) := by
  intro u inGraph named
  by_cases same : u.spec.name = t.spec.name
  · obtain rfl := Run.task_eq inGraph mem same
    refine ⟨s, ?_⟩
    rw [runTask_append placed]
    exact lookup_append_of_fresh fresh
  · have earlier : u.spec.name ∈ results.map (·.1) := by simpa [same] using named
    obtain ⟨s', result⟩ := explained u inGraph earlier
    refine ⟨s', ?_⟩
    rw [runTask_append (run.placed_of_mem inGraph earlier), lookup_append_of_mem earlier]
    exact result

/-- Dealing with tasks in an order that follows their dependencies leaves all results
explained. The induction is on the order. -/
theorem explained_runFrom {names placed : List String} (run : Run g inputs results log)
    (explained : Explained g inputs results) (follows : Plan.Follows g.plan placed names)
    (known : ∀ n ∈ names, n ∈ g.plan.names) (done : placed ⊆ results.map (·.1))
    (nodup : (results.map (·.1) ++ names).Nodup) (s : σ) :
    Explained g inputs (g.runFrom inputs results names s).1 := by
  induction names generalizing results log placed s with
  | nil => exact explained
  | cons n ns ih =>
      obtain ⟨t, found, mem, rfl, fresh, deps⟩ := next_task follows known done nodup
      obtain ⟨r, s', log', step, -, run'⟩ := run_runTask run mem fresh deps s
      have names : (results ++ [(t.spec.name, r)]).map (·.1) ++ ns =
          results.map (·.1) ++ t.spec.name :: ns := by simp
      have explained' := explained.append run mem fresh deps s
      rw [step] at explained'
      simp only [runFrom, found]
      change Explained g inputs (g.runFrom inputs
        (results ++ [(t.spec.name, (runTask inputs results t s).1)]) ns
        (runTask inputs results t s).2).1
      rw [step]
      exact ih run' explained' follows.2 (fun n mem => known n (List.mem_cons_of_mem _ mem))
        (placed_subset done r) (names ▸ nodup) s'

/-- Executing a valid graph deals with all of its tasks and explains their results. -/
theorem execute_explained (g : TaskGraph (StateM σ) V) (inputs : Inputs V)
    (valid : g.plan.validate = .ok ()) (s : σ) :
    ∃ results s' log, g.execute inputs s = (.ok ⟨g.name, results⟩, s') ∧
      Run g inputs results log ∧ Explained g inputs results ∧
      ∀ t ∈ g.tasks, t.spec.name ∈ results.map (·.1) := by
  have nodup : g.plan.names.Nodup := names_plan g ▸ g.names_nodup
  obtain ⟨order, orders, perm, follows⟩ := Plan.order_of_validate nodup valid
  have known : ∀ n ∈ order, n ∈ g.plan.names := fun n mem => perm.mem_iff.1 mem
  have nodup' : order.Nodup := perm.nodup_iff.2 nodup
  obtain ⟨results, s', log, ran, -, run, names⟩ :=
    run_runFrom (.start : Run g inputs [] []) follows known (by simp) (by simpa using nodup') s
  have explained := explained_runFrom (.start : Run g inputs [] []) (by simp [Explained]) follows
    known (by simp) (by simpa using nodup') s
  rw [ran] at explained
  refine ⟨results, s', log, ?_, run, explained, ?_⟩
  · simp only [execute, orders]
    change (Except.ok (RunReport.mk g.name (g.runFrom inputs [] order s).1),
      (g.runFrom inputs [] order s).2) = _
    rw [ran]
  · intro t inGraph
    rw [names, List.map_nil, List.nil_append, perm.mem_iff, names_plan]
    exact List.mem_map_of_mem inGraph

/-! ### Two runs -/

/-- Common tasks have the same results in two runs. The induction is on the results
of the first run, in which the dependencies of a task come before it. -/
theorem lookup_eq_of_sameAncestry {task : String} (same : SameAncestry g h task)
    (run : Run g inputs results log) (explained : Explained g inputs results)
    (explained' : Explained h inputs results')
    (all : ∀ u ∈ h.tasks, u.spec.name ∈ results'.map (·.1)) :
    ∀ before after, results = before ++ after → ∀ name ∈ before.map (·.1),
      g.plan.Reaches task name → results.lookup name = results'.lookup name := by
  intro before
  induction before using List.reverseRecOn with
  | nil => simp
  | append_singleton before entry ih =>
      obtain ⟨here, r⟩ := entry
      intro after whole name named reached
      have whole' : results = before ++ (here, r) :: after := by simpa using whole
      by_cases latest : name = here
      · subst latest
        obtain ⟨t, mem, named, placed⟩ := run.placed before name r after whole'
        obtain ⟨t', mem', u, inOther, named', rfl, deps, f, computes, computes'⟩ :=
          same name reached
        obtain rfl := Run.task_eq mem mem' (named.trans named'.symm)
        have agree : ∀ d ∈ t.spec.dependsOn, results.lookup d = results'.lookup d := by
          intro d dep
          refine ih _ whole' d (placed d dep) (reached.step ?_)
          have spec : t.spec ∈ g.plan := List.mem_map_of_mem mem
          rw [← named, Plan.dependenciesOf_of_mem (names_plan g ▸ g.names_nodup) spec]
          exact dep
        have dealt : t.spec.name ∈ results.map (·.1) := by simp [whole', named]
        obtain ⟨s, result⟩ := explained t mem dealt
        obtain ⟨s', result'⟩ := explained' u inOther (all u inOther)
        rw [runTask_of_computes computes] at result
        rw [runTask_of_computes computes', ← resultOf_congr deps agree f] at result'
        rw [result', ← named, result]
      · have earlier : name ∈ before.map (·.1) := by simpa [latest] using named
        exact ih _ whole' name earlier reached

/-- A task of two valid graphs that have it and all that it depends on in common has
the same result in both. -/
theorem execute_of_sameAncestry (g : TaskGraph (StateM σ) V) (h : TaskGraph (StateM τ) V)
    (inputs : Inputs V) (task : String) (valid : g.plan.validate = .ok ())
    (valid' : h.plan.validate = .ok ()) (same : SameAncestry g h task) (s : σ) (r : τ) :
    ∃ report s' report' r', g.execute inputs s = (.ok report, s') ∧
      h.execute inputs r = (.ok report', r') ∧
      ∃ result, report.result? task = some result ∧ report'.result? task = some result := by
  obtain ⟨results, s', log, ran, run, explained, all⟩ := g.execute_explained inputs valid s
  obtain ⟨results', r', log', ran', run', explained', all'⟩ := h.execute_explained inputs valid' r
  refine ⟨_, s', _, r', ran, ran', ?_⟩
  obtain ⟨t, mem, u, inOther, rfl, named, -⟩ := same task .refl
  have agree := lookup_eq_of_sameAncestry same run explained explained' all' results [] (by simp)
    t.spec.name (all t mem) .refl
  obtain ⟨s₀, result⟩ := explained t mem (all t mem)
  exact ⟨_, result, agree.symm.trans result⟩

/-- A task that gives the number one and counts that it ran. -/
def one : Task (StateM Nat) Nat := ⟨⟨"one", [], none⟩, fun _ count => (.value 1, count + 1)⟩

/-- A task that gives the number after that of `one`. -/
def next : Task (StateM Nat) Nat where
  spec := ⟨"next", ["one"], none⟩
  body inputs := pure <| match Keyed.get? "one" inputs with
    | some n => .value (n + 1)
    | none => .error (.missingInput "one")

/-- A task that crashes. -/
def broken : Task (StateM Nat) Nat := ⟨⟨"broken", [], none⟩, fun _ count => (.crash none, count)⟩

theorem computes_one : one.Computes fun _ => .value 1 := fun _ _ => rfl

/-- A crash and another order of declaration do not matter to a task. -/
theorem execute_of_sameAncestry_next :
    let g : TaskGraph (StateM Nat) Nat := ⟨"g", [one, next], by decide⟩
    let h : TaskGraph (StateM Nat) Nat := ⟨"h", [broken, next, one], by decide⟩
    ∃ report s' report' r', g.execute [] 0 = (.ok report, s') ∧
      h.execute [] 7 = (.ok report', r') ∧
      ∃ result, report.result? "next" = some result ∧ report'.result? "next" = some result := by
  intro g h
  have ancestry : ∀ name, g.plan.Reaches "next" name → name = "next" ∨ name = "one" := by
    intro name reached
    induction reached with
    | refl => exact .inl rfl
    | step before depends ih =>
        rcases ih with rfl | rfl
        · exact .inr (List.mem_singleton.mp depends)
        · cases depends
  have valid : g.plan.validate = .ok () := by
    simp [g, plan, one, next, Plan.validate, Plan.unknownDependency?, Plan.missingDependency?,
      Plan.declares, Plan.cycle?, Plan.names, Plan.searchAll, Plan.search, Plan.dependenciesOf,
      Plan.task?, bind, Except.bind, List.findSome?, List.find?]
  have valid' : h.plan.validate = .ok () := by
    simp [h, plan, one, next, broken, Plan.validate, Plan.unknownDependency?,
      Plan.missingDependency?, Plan.declares, Plan.cycle?, Plan.names, Plan.searchAll, Plan.search,
      Plan.dependenciesOf, Plan.task?, bind, Except.bind, List.findSome?, List.find?]
  refine execute_of_sameAncestry g h [] "next" valid valid' ?_ 0 7
  intro name reached
  rcases ancestry name reached with rfl | rfl
  · exact ⟨next, by simp [g], next, by simp [h], rfl, rfl, rfl, _, fun _ _ => rfl, fun _ _ => rfl⟩
  · exact ⟨one, by simp [g], one, by simp [h], rfl, rfl, rfl, _, computes_one, computes_one⟩

end TaskGraph

end SqlGrader
