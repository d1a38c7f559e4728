import SqlGrader.Proofs.Task.Account
import SqlGrader.Proofs.Task.Order
/-!
# Executing a task graph

Executing a valid graph deals with every task once, each after its dependencies, and accounts for
all of them. A graph that is not valid invokes no body.

Bodies act on a state of any kind, so that two invocations of one body may differ. Which bodies are
invoked, and on what, is told by the same graph with each invocation written down.
-/

namespace SqlGrader.TaskGraph

variable {σ V : Type}

/-- The task with each invocation of its body written down after the earlier ones. -/
def observedTask (t : Task (StateM σ) V) : Task (StateM (σ × List (Invocation V))) V :=
  ⟨t.spec, fun inputs s =>
    let (outcome, state) := t.body inputs s.1
    (outcome, (state, s.2 ++ [⟨t.spec.name, inputs, outcome⟩]))⟩

/-- The graph with each invocation of a body written down. -/
def observed (g : TaskGraph (StateM σ) V) : TaskGraph (StateM (σ × List (Invocation V))) V :=
  ⟨g.name, g.tasks.map observedTask, by simpa [Function.comp_def, observedTask] using g.names_nodup⟩

theorem plan_observed (g : TaskGraph (StateM σ) V) : g.observed.plan = g.plan := by
  simp [plan, observed, observedTask, Function.comp_def]

theorem task?_observed (g : TaskGraph (StateM σ) V) (name : String) :
    g.observed.task? name = (g.task? name).map observedTask := by
  simp [task?, observed, List.find?_map, Function.comp_def, observedTask]

theorem names_plan {m : Type → Type} (g : TaskGraph m V) :
    g.plan.names = g.tasks.map (·.spec.name) := by
  simp [plan, Plan.names, Function.comp_def]

theorem exists_task? {m : Type → Type} {g : TaskGraph m V} {name : String}
    (known : name ∈ g.plan.names) :
    ∃ t, g.task? name = some t ∧ t ∈ g.tasks ∧ t.spec.name = name := by
  rw [names_plan] at known
  obtain ⟨u, mem, named⟩ := List.mem_map.1 known
  cases found : g.task? name with
  | none => exact absurd named (by simpa using List.find?_eq_none.1 found u mem)
  | some t =>
      have same := List.find?_some found
      exact ⟨t, rfl, List.mem_of_find?_eq_some found, by simpa using same⟩

/-- One more task dealt with: the state changes as its body changes it, and the invocation of the
body, if there is one, is written down. -/
theorem run_runTask {g : TaskGraph (StateM σ) V} {inputs : Inputs V}
    {results : List (String × TaskResult V)} {log : List (Invocation V)} {t : Task (StateM σ) V}
    (run : Run g inputs results log) (mem : t ∈ g.tasks) (fresh : t.spec.name ∉ results.map (·.1))
    (placed : ∀ e ∈ t.spec.dependsOn, e ∈ results.map (·.1)) (s : σ) :
    ∃ r s' log', runTask inputs results t s = (r, s') ∧
      runTask inputs results (observedTask t) (s, log) = (r, (s', log')) ∧
      Run g inputs (results ++ [(t.spec.name, r)]) log' := by
  cases failed : failedDependency? results t.spec with
  | some d =>
      refine ⟨.error (.dependencyFailed d), s, log, ?_, ?_, run.leave mem fresh placed failed⟩
      · simp only [runTask, failed]
        rfl
      · simp only [runTask, observedTask, failed]
        rfl
  | none =>
      refine ⟨.ofAttempt (t.body (visibleInputs inputs results t.spec) s).1,
        (t.body (visibleInputs inputs results t.spec) s).2, _, ?_, ?_,
        run.invoke mem fresh placed failed _⟩
      · simp only [runTask, failed]
        rfl
      · simp only [runTask, observedTask, failed]
        rfl

/-- The next name of an order that follows the dependencies is that of a task which
was not dealt with yet, but whose dependencies were. -/
theorem next_task {m : Type → Type} {g : TaskGraph m V} {results : List (String × TaskResult V)}
    {name : String} {names placed : List String}
    (follows : Plan.Follows g.plan placed (name :: names))
    (known : ∀ n ∈ name :: names, n ∈ g.plan.names) (done : placed ⊆ results.map (·.1))
    (nodup : (results.map (·.1) ++ name :: names).Nodup) :
    ∃ t, g.task? name = some t ∧ t ∈ g.tasks ∧ t.spec.name = name ∧
      t.spec.name ∉ results.map (·.1) ∧ ∀ e ∈ t.spec.dependsOn, e ∈ results.map (·.1) := by
  obtain ⟨t, found, mem, rfl⟩ := exists_task? (known name List.mem_cons_self)
  have names_nodup : g.plan.names.Nodup := names_plan g ▸ g.names_nodup
  have spec : t.spec ∈ g.plan := List.mem_map.2 ⟨t, mem, rfl⟩
  refine ⟨t, found, mem, rfl, ?_, ?_⟩
  · exact fun dealt => (List.nodup_append.1 nodup).2.2 _ dealt _ List.mem_cons_self rfl
  · intro e dep
    rw [← Plan.dependenciesOf_of_mem names_nodup spec] at dep
    exact done (follows.1 e dep)

theorem placed_subset {results : List (String × TaskResult V)} {name : String}
    {placed : List String} (done : placed ⊆ results.map (·.1)) (r : TaskResult V) :
    name :: placed ⊆ (results ++ [(name, r)]).map (·.1) := by
  intro e dep
  rw [List.map_append]
  rcases List.mem_cons.1 dep with rfl | dep
  · exact List.mem_append_right _ List.mem_cons_self
  · exact List.mem_append_left _ (done dep)

/-- Dealing with tasks in an order that follows their dependencies continues a run. The induction
is on the order. -/
theorem run_runFrom {g : TaskGraph (StateM σ) V} {inputs : Inputs V}
    {results : List (String × TaskResult V)} {log : List (Invocation V)} {names : List String}
    {placed : List String} (run : Run g inputs results log)
    (follows : Plan.Follows g.plan placed names) (known : ∀ n ∈ names, n ∈ g.plan.names)
    (done : placed ⊆ results.map (·.1)) (nodup : (results.map (·.1) ++ names).Nodup) (s : σ) :
    ∃ results' s' log', g.runFrom inputs results names s = (results', s') ∧
      g.observed.runFrom inputs results names (s, log) = (results', (s', log')) ∧
      Run g inputs results' log' ∧ results'.map (·.1) = results.map (·.1) ++ names := by
  induction names generalizing results log placed s with
  | nil => exact ⟨results, s, log, rfl, rfl, run, by simp⟩
  | cons n ns ih =>
      obtain ⟨t, found, mem, rfl, fresh, deps⟩ := next_task follows known done nodup
      obtain ⟨r, s₁, log₁, step, step', run'⟩ := run_runTask run mem fresh deps s
      have names : (results ++ [(t.spec.name, r)]).map (·.1) ++ ns =
          results.map (·.1) ++ t.spec.name :: ns := by simp
      obtain ⟨results', s', log', ran, ran', run'', ends⟩ := ih run' follows.2
        (fun n mem => known n (List.mem_cons_of_mem _ mem))
        (placed_subset done r)
        (names ▸ nodup) s₁
      refine ⟨results', s', log', ?_, ?_, run'', ends.trans names⟩
      · simp only [runFrom, found]
        change g.runFrom inputs (results ++ [(t.spec.name, (runTask inputs results t s).1)]) ns
          (runTask inputs results t s).2 = _
        rw [step]
        exact ran
      · simp only [runFrom, task?_observed, found, Option.map_some]
        change g.observed.runFrom inputs
          (results ++ [(t.spec.name, (runTask inputs results (observedTask t) (s, log)).1)]) ns
          (runTask inputs results (observedTask t) (s, log)).2 = _
        rw [step']
        exact ran'

/-- Executing a valid graph is a run that deals with every task once, and the graph that writes down
the invocations makes the same run. -/
theorem execute_run (g : TaskGraph (StateM σ) V) (inputs : Inputs V)
    (valid : g.plan.validate = .ok ()) (s : σ) :
    ∃ results s' log, g.execute inputs s = (.ok ⟨g.name, results⟩, s') ∧
      g.observed.execute inputs (s, []) = (.ok ⟨g.name, results⟩, (s', log)) ∧
      Run g inputs results log ∧ (results.map (·.1)).Perm (g.tasks.map (·.spec.name)) := by
  have nodup : g.plan.names.Nodup := names_plan g ▸ g.names_nodup
  obtain ⟨order, orders, perm, follows⟩ := Plan.order_of_validate nodup valid
  obtain ⟨results, s', log, ran, ran', run, names⟩ :=
    run_runFrom (.start : Run g inputs [] []) follows (fun n mem => perm.mem_iff.1 mem) (by simp)
      (by simpa using perm.nodup_iff.2 nodup) s
  rw [names_plan] at perm
  refine ⟨results, s', log, ?_, ?_, run, names ▸ perm⟩
  · simp only [execute, orders]
    change (Except.ok (RunReport.mk g.name (g.runFrom inputs [] order s).1),
      (g.runFrom inputs [] order s).2) = _
    rw [ran]
  · simp only [execute, plan_observed, orders]
    change (Except.ok (RunReport.mk g.name (g.observed.runFrom inputs [] order (s, [])).1),
      (g.observed.runFrom inputs [] order (s, [])).2) = _
    rw [ran']

/-- A task gives a value exactly if its body was invoked and returned that value. -/
theorem Account.value_iff {inputs : Inputs V} {results : List (String × TaskResult V)}
    {log : List (Invocation V)} {t : TaskSpec} (account : Account inputs results log t) (v : V) :
    results.lookup t.name = some (.ok v) ↔ ∃ i ∈ log, i.task = t.name ∧ i.outcome = .value v := by
  constructor
  · intro gave
    by_contra noRun
    by_cases invoked : ∃ i ∈ log, i.task = t.name
    · obtain ⟨i, inLog, ofTask⟩ := invoked
      have result := account.result i inLog ofTask
      rw [gave, Option.some.injEq] at result
      cases outcome : i.outcome with
      | value w =>
          rw [outcome] at result
          cases result
          exact noRun ⟨i, inLog, ofTask, outcome⟩
      | error e =>
          rw [outcome] at result
          cases result
      | crash message =>
          rw [outcome] at result
          cases result
    · obtain ⟨_, d, _, _, _, _, result⟩ :=
        account.leftOut fun i inLog ofTask => invoked ⟨i, inLog, ofTask⟩
      rw [gave] at result
      cases result
  · rintro ⟨i, inLog, ofTask, outcome⟩
    rw [account.result i inLog ofTask, outcome]
    rfl

/-- Executing a graph. A graph that is not valid gives the error of its plan, and no body is
invoked. Of a valid graph there is one result for every task, each after results of the
dependencies; only tasks of the graph are invoked; every task is accounted for, and gives a value
exactly if its body was invoked and returned it. The graph that writes down the invocations does
the same as the graph itself. -/
theorem execute_accounts (g : TaskGraph (StateM σ) V) (inputs : Inputs V) (s : σ) :
    (∀ e, g.plan.validate = .error e →
      g.execute inputs s = (.error e, s) ∧
      g.observed.execute inputs (s, []) = (.error e, (s, []))) ∧
    (g.plan.validate = .ok () → ∃ report s' log,
      g.execute inputs s = (.ok report, s') ∧
      g.observed.execute inputs (s, []) = (.ok report, (s', log)) ∧
      report.order.Perm (g.tasks.map (·.spec.name)) ∧
      (∀ before name r after, report.results = before ++ (name, r) :: after →
        ∀ d ∈ g.plan.dependenciesOf name, d ∈ before.map (·.1)) ∧
      (∀ i ∈ log, i.task ∈ g.tasks.map (·.spec.name)) ∧
      ∀ t ∈ g.tasks, Account inputs report.results log t.spec ∧
        ∀ v, report.result? t.spec.name = some (.ok v) ↔
          ∃ i ∈ log, i.task = t.spec.name ∧ i.outcome = .value v) := by
  constructor
  · intro e invalid
    have orders := Plan.order_of_invalid invalid
    constructor
    · simp only [execute, orders]
      rfl
    · simp only [execute, plan_observed, orders]
      rfl
  · intro valid
    have nodup : g.plan.names.Nodup := names_plan g ▸ g.names_nodup
    obtain ⟨order, orders, perm, follows⟩ := Plan.order_of_validate nodup valid
    obtain ⟨results, s', log, ran, ran', run, names⟩ :=
      run_runFrom (.start : Run g inputs [] []) follows (fun n mem => perm.mem_iff.1 mem) (by simp)
        (by simpa using perm.nodup_iff.2 nodup) s
    simp only [List.map_nil, List.nil_append] at names
    rw [names_plan] at perm
    have dealt : ∀ t ∈ g.tasks, t.spec.name ∈ results.map (·.1) := by
      intro t inGraph
      rw [names, perm.mem_iff]
      exact List.mem_map.2 ⟨t, inGraph, rfl⟩
    refine ⟨⟨g.name, results⟩, s', log, ?_, ?_, ?_, ?_, ?_, ?_⟩
    · simp only [execute, orders]
      change (Except.ok (RunReport.mk g.name (g.runFrom inputs [] order s).1),
        (g.runFrom inputs [] order s).2) = _
      rw [ran]
    · simp only [execute, plan_observed, orders]
      change (Except.ok (RunReport.mk g.name (g.observed.runFrom inputs [] order (s, [])).1),
        (g.observed.runFrom inputs [] order (s, [])).2) = _
      rw [ran']
    · change (results.map (·.1)).Perm _
      rw [names]
      exact perm
    · intro before name r after whole
      obtain ⟨t, inGraph, rfl, deps⟩ := run.placed before name r after whole
      rw [Plan.dependenciesOf_of_mem nodup (List.mem_map.2 ⟨t, inGraph, rfl⟩)]
      exact deps
    · intro i inLog
      rw [← perm.mem_iff, ← names]
      exact run.invoked_named i inLog
    · intro t inGraph
      have account := run.account t inGraph (dealt t inGraph)
      exact ⟨account, account.value_iff⟩

end SqlGrader.TaskGraph
