import SqlGrader.Proofs.Task.Ancestry
import SqlGrader.Proofs.Task.Validation
/-!
# Why tasks failed

A task that fails without its body being run names a dependency that failed before it. Going from
each failure to the one that it names leads back in the order of the run, so it ends, at a task
whose own body returned an error or crashed. The other way round a failure spreads to every task
that depends on the failed one, directly or through others.
-/

namespace SqlGrader

variable {σ V : Type}

/-! ### Failures in a report -/

/-- Where every name stands once, looking it up is membership. -/
theorem lookup_eq_some_iff_mem {results : List (String × TaskResult V)} {name : String}
    {r : TaskResult V} (nodup : (results.map (·.1)).Nodup) :
    results.lookup name = some r ↔ (name, r) ∈ results := by
  rw [List.lookup_eq_some_iff]
  constructor
  · rintro ⟨before, after, rfl, -⟩
    simp
  · intro mem
    obtain ⟨before, after, rfl⟩ := List.append_of_mem mem
    refine ⟨before, after, rfl, fun p inside => bne_iff_ne.mpr fun same => ?_⟩
    rw [List.map_append, List.nodup_append] at nodup
    exact nodup.2.2 p.1 (List.mem_map_of_mem inside) name (by simp) same.symm

namespace RunReport

variable {report : RunReport V} {name : String}

/-- Whether going from a failure to the one that it names, that many times, leads to a task. -/
inductive LeadsTo (report : RunReport V) : Nat → String → String → Prop
  | here (name : String) : LeadsTo report 0 name name
  | step {steps : Nat} {name dependency root : String}
      (names : (name, .dependencyFailed dependency) ∈ report.failures)
      (rest : LeadsTo report steps dependency root) : LeadsTo report (steps + 1) name root

theorem succeeded_add_failed (report : RunReport V) :
    report.succeeded + report.failed = report.results.length := by
  have within : report.succeeded ≤ report.results.length := List.length_filter_le _ _
  rw [failed]
  omega

theorem mem_failures {f : TaskFailure} :
    (name, f) ∈ report.failures ↔ (name, .error f) ∈ report.results := by
  simp only [failures, List.mem_filterMap, Option.map_eq_some_iff]
  constructor
  · rintro ⟨⟨n, r⟩, mem, g, failure, same⟩
    cases same
    cases r with
    | ok v => cases failure
    | error f =>
        cases failure
        exact mem
  · exact fun mem => ⟨_, mem, f, rfl, rfl⟩

theorem failures_append (label : String) (results more : List (String × TaskResult V)) :
    (RunReport.mk label (results ++ more)).failures =
      (RunReport.mk label results).failures ++ (RunReport.mk label more).failures := by
  rw [failures, List.filterMap_append]
  rfl

/-- A place among the failures is one among the results. -/
theorem exists_of_failures_eq {before after : List (String × TaskFailure)} {f : TaskFailure}
    (whole : report.failures = before ++ (name, f) :: after) :
    ∃ front back, report.results = front ++ (name, .error f) :: back ∧
      (RunReport.mk report.graphName front).failures = before := by
  obtain ⟨lead, rest, results, rfl, later⟩ := List.filterMap_eq_append_iff.mp whole
  obtain ⟨given, ⟨n, r⟩, back, rfl, none, failed, -⟩ := List.filterMap_eq_cons_iff.mp later
  obtain ⟨g, failure, same⟩ := Option.map_eq_some_iff.mp failed
  cases same
  cases r with
  | ok v => cases failure
  | error f =>
      cases failure
      refine ⟨lead ++ given, back, by simp [results], ?_⟩
      rw [failures_append, failures, failures, List.filterMap_eq_nil_iff.mpr none, List.append_nil]

theorem names_failures_sublist (report : RunReport V) :
    (report.failures.map (·.1)).Sublist report.order := by
  rw [failures, order]
  induction report.results with
  | nil => exact .slnil
  | cons p ps ih =>
      obtain ⟨n, r⟩ := p
      cases r with
      | ok v => exact .cons _ ih
      | error f => exact .cons_cons _ ih

end RunReport

/-! ### Failures of a run -/

/-- A task with a result but no value failed. -/
theorem exists_error_of_valueOf {results before after : List (String × TaskResult V)}
    {name : String} (nodup : (results.map (·.1)).Nodup) (whole : results = before ++ after)
    (known : name ∈ before.map (·.1)) (missing : valueOf results name = none) :
    ∃ f, (name, .error f) ∈ before := by
  obtain ⟨⟨n, r⟩, mem, rfl⟩ := List.mem_map.mp known
  have inside : (n, r) ∈ results := whole ▸ List.mem_append_left after mem
  rw [valueOf, (lookup_eq_some_iff_mem nodup).mpr inside, Option.bind_some] at missing
  cases r with
  | ok v => cases missing
  | error f => exact ⟨f, mem⟩

namespace TaskGraph

theorem dependenciesOf_task {m : Type → Type} {g : TaskGraph m V} {t : Task m V}
    (mem : t ∈ g.tasks) : g.plan.dependenciesOf t.spec.name = t.spec.dependsOn :=
  Plan.dependenciesOf_of_mem (names_plan g ▸ g.names_nodup) (List.mem_map_of_mem mem)

/-- Whether the body of the task was run and returned an error or crashed. -/
def FailedItself (log : List (Invocation V)) (name : String) : Prop :=
  ∃ i ∈ log, i.task = name ∧
    ((∃ e, i.outcome = .error e) ∨ ∃ message, i.outcome = .crash message)

/-- What the failures in a report tell about a run with these invocations. -/
structure TellsFailures (g : TaskGraph (StateM σ) V) (log : List (Invocation V))
    (report : RunReport V) : Prop where
  counted : report.succeeded + report.failed = g.tasks.length
  listed : ∀ name f, (name, f) ∈ report.failures ↔ report.result? name = some (.error f)
  once : (report.failures.map (·.1)).Nodup
  ordered : (report.failures.map (·.1)).Sublist report.order
  /-- A failure that names a dependency names one that is listed before it. -/
  blamed : ∀ before name dependency after,
    report.failures = before ++ (name, .dependencyFailed dependency) :: after →
      dependency ∈ g.plan.dependenciesOf name ∧ dependency ∈ before.map (·.1)
  /-- Going from failure to failure ends at a task that failed by itself. -/
  rooted : ∀ name ∈ report.failures.map (·.1), ∃ steps root, steps < report.failures.length ∧
    report.LeadsTo steps name root ∧ FailedItself log root
  spread : ∀ task ancestor, g.plan.Reaches task ancestor →
    ancestor ∈ report.failures.map (·.1) → task ∈ report.failures.map (·.1)

namespace Run

variable {σ : Type} {g : TaskGraph (StateM σ) V} {inputs : Inputs V}
  {results before after : List (String × TaskResult V)} {log : List (Invocation V)}
  {name d : String} {f : TaskFailure}

/-- A result that names a failed dependency names one that gave no value before. -/
theorem of_dependencyFailed (run : Run g inputs results log) (nodup : (results.map (·.1)).Nodup)
    (whole : results = before ++ (name, .error (.dependencyFailed d)) :: after) :
    d ∈ g.plan.dependenciesOf name ∧ d ∈ before.map (·.1) ∧ valueOf results d = none := by
  have here : (name, .error (.dependencyFailed d)) ∈ results := by simp [whole]
  obtain ⟨t, mem, rfl, placed⟩ := run.placed before name _ after whole
  have account := run.account t mem (List.mem_map_of_mem here)
  have result := (lookup_eq_some_iff_mem nodup).mpr here
  have unseen : ∀ i ∈ log, i.task ≠ t.spec.name := by
    intro i inLog ofTask
    have other := account.result i inLog ofTask
    rw [result] at other
    cases outcome : i.outcome <;> simp [outcome, TaskResult.ofAttempt] at other
  obtain ⟨front, d', back, deps, -, missing, result'⟩ := account.leftOut unseen
  cases Option.some.inj (result.symm.trans result')
  have dep : d ∈ t.spec.dependsOn := by simp [deps]
  refine ⟨?_, placed d dep, missing⟩
  rwa [dependenciesOf_task mem]

/-- Any other failure is one of the task itself. -/
theorem failedItself (run : Run g inputs results log) (nodup : (results.map (·.1)).Nodup)
    (mem : (name, .error f) ∈ results) (own : ∀ d, f ≠ .dependencyFailed d) :
    FailedItself log name := by
  obtain ⟨before, after, whole⟩ := List.append_of_mem mem
  obtain ⟨t, inGraph, rfl, -⟩ := run.placed before name _ after whole
  have account := run.account t inGraph (List.mem_map_of_mem mem)
  have result := (lookup_eq_some_iff_mem nodup).mpr mem
  by_cases invoked : ∃ i ∈ log, i.task = t.spec.name
  · obtain ⟨i, inLog, ofTask⟩ := invoked
    have outcome := account.result i inLog ofTask
    refine ⟨i, inLog, ofTask, ?_⟩
    cases gave : i.outcome with
    | value v => simp [result, gave, TaskResult.ofAttempt] at outcome
    | error e => exact .inl ⟨e, rfl⟩
    | crash message => exact .inr ⟨message, rfl⟩
  · obtain ⟨_, d, _, _, _, _, result'⟩ :=
      account.leftOut fun i inLog ofTask => invoked ⟨i, inLog, ofTask⟩
    cases Option.some.inj (result.symm.trans result')
    exact absurd rfl (own d)

/-- Going from failure to failure ends. The induction is on the results up to the failure, which
hold those of the dependencies. -/
theorem exists_root (run : Run g inputs results log) (nodup : (results.map (·.1)).Nodup)
    (label : String) : ∀ before after, results = before ++ after →
      ∀ name f, (name, .error f) ∈ before → ∃ steps root,
        steps < (RunReport.mk label before).failures.length ∧
        (RunReport.mk label results).LeadsTo steps name root ∧ FailedItself log root := by
  intro before
  induction before using List.reverseRecOn with
  | nil => simp
  | append_singleton before entry ih =>
      intro after whole name f mem
      have whole' : results = before ++ entry :: after := by simpa using whole
      rw [RunReport.failures_append, List.length_append]
      rcases List.mem_append.mp mem with earlier | last
      · obtain ⟨steps, root, fewer, leads, own⟩ := ih (entry :: after) whole' name f earlier
        exact ⟨steps, root, Nat.lt_add_right _ fewer, leads, own⟩
      · obtain rfl := List.mem_singleton.mp last
        have here : (name, .error f) ∈ results := by simp [whole']
        by_cases blames : ∃ d, f = .dependencyFailed d
        · obtain ⟨d, rfl⟩ := blames
          obtain ⟨-, placed, missing⟩ := run.of_dependencyFailed nodup whole'
          obtain ⟨g, failed⟩ := exists_error_of_valueOf nodup whole' placed missing
          obtain ⟨steps, root, fewer, leads, own⟩ := ih _ whole' d g failed
          refine ⟨steps + 1, root, Nat.add_lt_add_right fewer 1, .step ?_ leads, own⟩
          exact RunReport.mem_failures.mpr here
        · refine ⟨0, name, Nat.zero_lt_succ _, .here name, run.failedItself nodup here ?_⟩
          exact fun d same => blames ⟨d, same⟩

/-- A task fails where a dependency of it does. -/
theorem failed_of_dependency (run : Run g inputs results log) (nodup : (results.map (·.1)).Nodup)
    (all : ∀ t ∈ g.tasks, t.spec.name ∈ results.map (·.1))
    (dep : d ∈ g.plan.dependenciesOf name) (failed : (d, .error f) ∈ results) :
    ∃ e, (name, .error (.dependencyFailed e)) ∈ results := by
  have missing : valueOf results d = none := by
    rw [valueOf, (lookup_eq_some_iff_mem nodup).mpr failed]
    rfl
  by_cases known : name ∈ g.plan.names
  · obtain ⟨t, -, mem, rfl⟩ := exists_task? known
    rw [dependenciesOf_task mem] at dep
    have account := run.account t mem (all t mem)
    have invoked := account.invoked
    rw [if_neg fun given => by simpa [missing] using given d dep, List.length_eq_zero_iff,
      List.filter_eq_nil_iff] at invoked
    obtain ⟨_, e, _, _, _, _, result⟩ :=
      account.leftOut fun i inLog ofTask => invoked i inLog (by simp [ofTask])
    exact ⟨e, (lookup_eq_some_iff_mem nodup).mp result⟩
  · rw [Plan.dependenciesOf_of_undeclared (mt Plan.declares_iff.mp known)] at dep
    cases dep

end Run

/-- Whatever the bodies do, the report of a valid graph lists the tasks that failed, with a way from
each of them to one that failed by itself, and whatever depends on a failed task failed. -/
theorem execute_tellsFailures (g : TaskGraph (StateM σ) V) (inputs : Inputs V)
    (valid : g.plan.validate = .ok ()) (s : σ) :
    ∃ report s' log, g.execute inputs s = (.ok report, s') ∧
      g.observed.execute inputs (s, []) = (.ok report, (s', log)) ∧
      TellsFailures g log report := by
  obtain ⟨results, s', log, ran, ran', run, perm⟩ := g.execute_run inputs valid s
  have nodup : (results.map (·.1)).Nodup := perm.nodup_iff.mpr g.names_nodup
  have all : ∀ t ∈ g.tasks, t.spec.name ∈ results.map (·.1) := fun t mem =>
    perm.mem_iff.mpr (List.mem_map_of_mem (f := fun t => t.spec.name) mem)
  have ordered := RunReport.names_failures_sublist ⟨g.name, results⟩
  refine ⟨⟨g.name, results⟩, s', log, ran, ran', ?_, fun name f => ?_, ordered.nodup nodup, ordered,
    fun before name d after whole => ?_, fun name failed => ?_, fun task ancestor reaches => ?_⟩
  · rw [RunReport.succeeded_add_failed]
    simpa using perm.length_eq
  · rw [RunReport.mem_failures, RunReport.result?, lookup_eq_some_iff_mem nodup]
  · obtain ⟨front, back, split, rfl⟩ := RunReport.exists_of_failures_eq whole
    obtain ⟨dep, placed, missing⟩ := run.of_dependencyFailed nodup split
    obtain ⟨f, failed⟩ := exists_error_of_valueOf nodup split placed missing
    exact ⟨dep, List.mem_map_of_mem (RunReport.mem_failures.mpr failed)⟩
  · obtain ⟨⟨name, f⟩, mem, rfl⟩ := List.mem_map.mp failed
    exact run.exists_root nodup g.name results [] (by simp) name f (RunReport.mem_failures.mp mem)
  · induction reaches with
    | refl => exact id
    | @step name dependency _ depends ih =>
        intro failed
        obtain ⟨⟨d, f⟩, mem, rfl⟩ := List.mem_map.mp failed
        obtain ⟨e, mem'⟩ :=
          run.failed_of_dependency nodup all depends (RunReport.mem_failures.mp mem)
        exact ih (List.mem_map_of_mem (RunReport.mem_failures.mpr mem'))

/-- A task that reads no inputs and gives a number. -/
def constant (name : String) (dependsOn : List String) (n : Nat) : Task (StateM Nat) Nat :=
  ⟨⟨name, dependsOn, none⟩, fun _ count => (.value n, count + 1)⟩

/-- A crash, two tasks behind it, and one next to it. -/
theorem execute_tellsFailures_chain :
    let g : TaskGraph (StateM Nat) Nat :=
      ⟨"g", [constant "report" ["one", "sum"] 3, broken, constant "sum" ["broken"] 2, one],
        by decide⟩
    g.plan.validate = .ok () ∧ ∃ report s' log, g.execute [] 0 = (.ok report, s') ∧
      g.observed.execute [] (0, []) = (.ok report, (s', log)) ∧ TellsFailures g log report := by
  intro g
  have valid : g.plan.validate = .ok () := by
    simp [g, plan, constant, one, broken, Plan.validate, Plan.unknownDependency?,
      Plan.missingDependency?, Plan.declares, Plan.cycle?, Plan.names, Plan.searchAll, Plan.search,
      Plan.dependenciesOf, Plan.task?, bind, Except.bind, List.findSome?, List.find?]
  exact ⟨valid, execute_tellsFailures g [] valid 0⟩

end TaskGraph

end SqlGrader
