import Mathlib.Data.List.Induction
import Mathlib.Data.List.Nodup
import SqlGrader.Task.Run
/-!
# Runs and what they say about a task

A run of part of a graph is a list of results with the invocations of bodies that led to them. A
body is invoked once if all of its dependencies gave values, and it sees the inputs of the run with
those values in front of them; else it is not invoked, and its task fails naming the first
dependency that gave no value. `Run.account` proves this of every run, by what one step adds to it
and what it leaves alone.
-/

namespace SqlGrader

/-! ### Results by name -/

/-- The value that a task gave, if it gave one. -/
def valueOf {V : Type} (results : List (String × TaskResult V)) (name : String) : Option V :=
  (results.lookup name).bind TaskResult.value?

section Results

variable {V : Type} {results : List (String × TaskResult V)} {name : String}

theorem lookup_append_of_mem {more : List (String × TaskResult V)}
    (mem : name ∈ results.map (·.1)) : (results ++ more).lookup name = results.lookup name := by
  induction results with
  | nil => simp at mem
  | cons q qs ih =>
      obtain ⟨n, r⟩ := q
      by_cases same : name = n
      · simp [same]
      · have rest : name ∈ qs.map (·.1) := by simpa [same] using mem
        have differs : (name == n) = false := by simpa using same
        simpa only [List.cons_append, List.lookup_cons, differs] using ih rest

theorem lookup_append_of_fresh {r : TaskResult V} (fresh : name ∉ results.map (·.1)) :
    (results ++ [(name, r)]).lookup name = some r := by
  induction results with
  | nil => simp
  | cons q qs ih =>
      obtain ⟨n, r'⟩ := q
      obtain ⟨other, rest⟩ := not_or.1 (mt List.mem_cons.2 fresh)
      have differs : (name == n) = false := by simpa using other
      simpa only [List.cons_append, List.lookup_cons, differs] using ih rest

theorem valueOf_append_of_mem {more : List (String × TaskResult V)}
    (mem : name ∈ results.map (·.1)) : valueOf (results ++ more) name = valueOf results name := by
  simp only [valueOf, lookup_append_of_mem mem]

theorem any_isSuccess (results : List (String × TaskResult V)) (name : String) :
    (results.lookup name).any (·.isSuccess) = (valueOf results name).isSome := by
  unfold valueOf
  cases results.lookup name with
  | none => rfl
  | some r => cases r <;> rfl

end Results

namespace TaskGraph

variable {V : Type}

/-- A task fails for the first dependency that gave no value. -/
theorem failedDependency?_eq_some {results : List (String × TaskResult V)} {t : TaskSpec}
    {d : String} (failed : failedDependency? results t = some d) :
    ∃ before after, t.dependsOn = before ++ d :: after ∧
      (∀ e ∈ before, (valueOf results e).isSome) ∧ valueOf results d = none := by
  obtain ⟨missing, before, after, whole, front⟩ := List.find?_eq_some_iff_append.1 failed
  refine ⟨before, after, whole, ?_, ?_⟩
  · intro e dep
    simpa [any_isSuccess] using front e dep
  · simpa [any_isSuccess] using missing

theorem failedDependency?_eq_none {results : List (String × TaskResult V)} {t : TaskSpec}
    (ready : failedDependency? results t = none) :
    ∀ d ∈ t.dependsOn, (valueOf results d).isSome := by
  intro d dep
  simpa [any_isSuccess, Option.isSome_iff_ne_none] using List.find?_eq_none.1 ready d dep

/-- Where all dependencies gave values, their values stand in front of the inputs of the run. The
induction is on the dependencies from the last one on, which hides those before it. -/
theorem get?_visibleInputs {results : List (String × TaskResult V)} {t : TaskSpec}
    (inputs : Inputs V) (name : String) (ready : ∀ d ∈ t.dependsOn, (valueOf results d).isSome) :
    Keyed.get? name (visibleInputs inputs results t) =
      if name ∈ t.dependsOn then valueOf results name else Keyed.get? name inputs := by
  unfold visibleInputs
  generalize t.dependsOn = ds at ready ⊢
  induction ds using List.reverseRecOn with
  | nil => simp
  | append_singleton ds d ih =>
      have rest := ih fun e dep => ready e (List.mem_append_left _ dep)
      obtain ⟨v, given⟩ := Option.isSome_iff_exists.1 (ready d (by simp))
      have found : (results.lookup d).bind TaskResult.value? = some v := given
      rw [List.foldl_append, List.foldl_cons, List.foldl_nil, found]
      by_cases same : name = d
      · subst same
        simp [Keyed.get?_insert_self, given]
      · simp [Keyed.get?_insert_of_ne same, rest, same]

/-! ### Invocations -/

/-- One invocation of the body of a task: what it saw and what came of it. -/
structure Invocation (V : Type) where
  task : String
  inputs : Inputs V
  outcome : Attempt TaskError V

/-- A run of part of a graph, with the results in the order in which the tasks were dealt with and
the invocations of bodies. The dependencies of a task have results when the task is dealt with. -/
inductive Run {m : Type → Type} (g : TaskGraph m V) (inputs : Inputs V) :
    List (String × TaskResult V) → List (Invocation V) → Prop
  | start : Run g inputs [] []
  /-- The body of a task is not invoked, since a dependency gave no value. -/
  | leave {results : List (String × TaskResult V)} {log : List (Invocation V)} {t : Task m V}
      {d : String} (before : Run g inputs results log) (mem : t ∈ g.tasks)
      (fresh : t.spec.name ∉ results.map (·.1))
      (placed : ∀ e ∈ t.spec.dependsOn, e ∈ results.map (·.1))
      (failed : failedDependency? results t.spec = some d) :
      Run g inputs (results ++ [(t.spec.name, .error (.dependencyFailed d))]) log
  | invoke {results : List (String × TaskResult V)} {log : List (Invocation V)} {t : Task m V}
      (before : Run g inputs results log) (mem : t ∈ g.tasks)
      (fresh : t.spec.name ∉ results.map (·.1))
      (placed : ∀ e ∈ t.spec.dependsOn, e ∈ results.map (·.1))
      (ready : failedDependency? results t.spec = none) (outcome : Attempt TaskError V) :
      Run g inputs (results ++ [(t.spec.name, .ofAttempt outcome)])
        (log ++ [⟨t.spec.name, visibleInputs inputs results t.spec, outcome⟩])

/-- What a run says about one task that it dealt with. -/
structure Account (inputs : Inputs V) (results : List (String × TaskResult V))
    (log : List (Invocation V)) (t : TaskSpec) : Prop where
  /-- The body is invoked once if all dependencies gave values, else never. -/
  invoked : (log.filter (·.task == t.name)).length =
    if ∀ d ∈ t.dependsOn, (valueOf results d).isSome then 1 else 0
  /-- The body sees the inputs of the run under the values of the dependencies. -/
  seen : ∀ i ∈ log, i.task = t.name → ∀ name, Keyed.get? name i.inputs =
    if name ∈ t.dependsOn then valueOf results name else Keyed.get? name inputs
  /-- The result is what came of the body. -/
  result : ∀ i ∈ log, i.task = t.name → results.lookup t.name = some (.ofAttempt i.outcome)
  /-- Without an invocation the task fails for the first dependency that gave no value. -/
  leftOut : (∀ i ∈ log, i.task ≠ t.name) → ∃ before d after, t.dependsOn = before ++ d :: after ∧
    (∀ e ∈ before, (valueOf results e).isSome) ∧ valueOf results d = none ∧
    results.lookup t.name = some (.error (.dependencyFailed d))

theorem filter_of_others {log : List (Invocation V)} {name : String}
    (others : ∀ i ∈ log, i.task ≠ name) : log.filter (·.task == name) = [] :=
  List.filter_eq_nil_iff.2 fun i inLog => by simpa using others i inLog

/-- What is known of a task does not change while others are dealt with. -/
theorem Account.append {inputs : Inputs V} {results more : List (String × TaskResult V)}
    {log later : List (Invocation V)} {t : TaskSpec} (account : Account inputs results log t)
    (named : t.name ∈ results.map (·.1)) (placed : ∀ d ∈ t.dependsOn, d ∈ results.map (·.1))
    (others : ∀ i ∈ later, i.task ≠ t.name) :
    Account inputs (results ++ more) (log ++ later) t := by
  have values : ∀ d ∈ t.dependsOn, valueOf (results ++ more) d = valueOf results d :=
    fun d dep => valueOf_append_of_mem (placed d dep)
  have found : (results ++ more).lookup t.name = results.lookup t.name :=
    lookup_append_of_mem named
  have earlier : ∀ i ∈ log ++ later, i.task = t.name → i ∈ log := by
    intro i inLog ofTask
    rcases List.mem_append.1 inLog with inLog | inLog
    · exact inLog
    · exact absurd ofTask (others i inLog)
  refine ⟨?_, ?_, ?_, ?_⟩
  · rw [List.filter_append, filter_of_others others, List.append_nil, account.invoked]
    congr 1
    exact propext (forall₂_congr fun d dep => by rw [values d dep])
  · intro i inLog ofTask name
    rw [account.seen i (earlier i inLog ofTask) ofTask name]
    split
    next same => rw [values name same]
    · rfl
  · intro i inLog ofTask
    rw [found]
    exact account.result i (earlier i inLog ofTask) ofTask
  · intro unseen
    obtain ⟨before, d, after, whole, front, missing, result⟩ :=
      account.leftOut fun i inLog => unseen i (List.mem_append_left _ inLog)
    refine ⟨before, d, after, whole, ?_, ?_, ?_⟩
    · intro e dep
      rw [values e (by simp [whole, dep])]
      exact front e dep
    · rw [values d (by simp [whole])]
      exact missing
    · rw [found]
      exact result

namespace Run

variable {m : Type → Type} {g : TaskGraph m V} {inputs : Inputs V}
  {results : List (String × TaskResult V)} {log : List (Invocation V)}

theorem invoked_named (run : Run g inputs results log) :
    ∀ i ∈ log, i.task ∈ results.map (·.1) := by
  induction run with
  | start => simp
  | leave _ _ _ _ _ ih =>
      intro i inLog
      simp [ih i inLog]
  | invoke _ _ _ _ _ _ ih =>
      intro i inLog
      rcases List.mem_append.1 inLog with inLog | inLog
      · simp [ih i inLog]
      · simp [List.mem_singleton.1 inLog]

/-- Two tasks of a graph that have one name are the same task. -/
theorem task_eq {t u : Task m V} (inGraph : t ∈ g.tasks) (inGraph' : u ∈ g.tasks)
    (name : t.spec.name = u.spec.name) : t = u :=
  List.inj_on_of_nodup_map g.names_nodup inGraph inGraph' name

/-- Every result comes after results of the dependencies. -/
theorem placed (run : Run g inputs results log) :
    ∀ before name r after, results = before ++ (name, r) :: after →
      ∃ t ∈ g.tasks, t.spec.name = name ∧ ∀ d ∈ t.spec.dependsOn, d ∈ before.map (·.1) := by
  -- A place in the longer list is its end or a place in the shorter one.
  have extend {results : List (String × TaskResult V)} {t : Task m V} {r : TaskResult V}
      (mem : t ∈ g.tasks) (placed : ∀ e ∈ t.spec.dependsOn, e ∈ results.map (·.1))
      (ih : ∀ before name r after, results = before ++ (name, r) :: after →
        ∃ t ∈ g.tasks, t.spec.name = name ∧ ∀ d ∈ t.spec.dependsOn, d ∈ before.map (·.1)) :
      ∀ before name r' after, results ++ [(t.spec.name, r)] = before ++ (name, r') :: after →
        ∃ t ∈ g.tasks, t.spec.name = name ∧ ∀ d ∈ t.spec.dependsOn, d ∈ before.map (·.1) := by
    intro before name r' after whole
    rcases List.eq_nil_or_concat' after with rfl | ⟨more, last, rfl⟩
    · obtain ⟨rfl, here⟩ := List.append_inj' whole rfl
      cases here
      exact ⟨t, mem, rfl, placed⟩
    · have whole : results ++ [(t.spec.name, r)] = (before ++ (name, r') :: more) ++ [last] := by
        simpa using whole
      obtain ⟨front, _⟩ := List.append_inj' whole rfl
      exact ih before name r' more front
  induction run with
  | start => simp
  | leave _ mem _ placed _ ih => exact extend mem placed ih
  | invoke _ mem _ placed _ _ ih => exact extend mem placed ih

theorem placed_of_mem (run : Run g inputs results log) {t : Task m V} (inGraph : t ∈ g.tasks)
    (named : t.spec.name ∈ results.map (·.1)) :
    ∀ d ∈ t.spec.dependsOn, d ∈ results.map (·.1) := by
  obtain ⟨⟨name, r⟩, mem, here⟩ := List.mem_map.1 named
  obtain ⟨before, after, whole⟩ := List.append_of_mem mem
  obtain ⟨u, inGraph', named', deps⟩ := run.placed before name r after whole
  have same : u = t := task_eq inGraph' inGraph (named'.trans here)
  subst same
  intro d dep
  rw [whole, List.map_append]
  exact List.mem_append_left _ (deps d dep)

/-- Of a task whose dependency gave no value nothing is invoked. -/
theorem account_leave {t : TaskSpec} {d : String} (run : Run g inputs results log)
    (fresh : t.name ∉ results.map (·.1)) (placed : ∀ e ∈ t.dependsOn, e ∈ results.map (·.1))
    (failed : failedDependency? results t = some d) :
    Account inputs (results ++ [(t.name, .error (.dependencyFailed d))]) log t := by
  have others : ∀ i ∈ log, i.task ≠ t.name :=
    fun i inLog ofTask => fresh (ofTask ▸ run.invoked_named i inLog)
  obtain ⟨before, after, whole, front, missing⟩ := failedDependency?_eq_some failed
  have values : ∀ e ∈ t.dependsOn,
      valueOf (results ++ [(t.name, .error (.dependencyFailed d))]) e = valueOf results e :=
    fun e dep => valueOf_append_of_mem (placed e dep)
  have value := values d (by simp [whole])
  refine ⟨?_, fun i inLog ofTask => absurd ofTask (others i inLog),
    fun i inLog ofTask => absurd ofTask (others i inLog), ?_⟩
  · rw [filter_of_others others, if_neg]
    · rfl
    · intro all
      have := all d (by simp [whole])
      simp [value, missing] at this
  · intro _
    refine ⟨before, d, after, whole, ?_, value.trans missing, lookup_append_of_fresh fresh⟩
    intro e dep
    rw [values e (by simp [whole, dep])]
    exact front e dep

/-- A task whose dependencies all gave values is invoked once, on what it may see. -/
theorem account_invoke {t : TaskSpec} (run : Run g inputs results log)
    (fresh : t.name ∉ results.map (·.1)) (placed : ∀ e ∈ t.dependsOn, e ∈ results.map (·.1))
    (ready : failedDependency? results t = none) (outcome : Attempt TaskError V) :
    Account inputs (results ++ [(t.name, .ofAttempt outcome)])
      (log ++ [⟨t.name, visibleInputs inputs results t, outcome⟩]) t := by
  have others : ∀ i ∈ log, i.task ≠ t.name :=
    fun i inLog ofTask => fresh (ofTask ▸ run.invoked_named i inLog)
  have latest : ∀ i ∈ log ++ [⟨t.name, visibleInputs inputs results t, outcome⟩],
      i.task = t.name → i = ⟨t.name, visibleInputs inputs results t, outcome⟩ := by
    intro i inLog ofTask
    rcases List.mem_append.1 inLog with inLog | inLog
    · exact absurd ofTask (others i inLog)
    · exact List.mem_singleton.1 inLog
  have values : ∀ e ∈ t.dependsOn,
      valueOf (results ++ [(t.name, .ofAttempt outcome)]) e = valueOf results e :=
    fun e dep => valueOf_append_of_mem (placed e dep)
  have all := failedDependency?_eq_none ready
  refine ⟨?_, ?_, ?_, ?_⟩
  · rw [List.filter_append, filter_of_others others, if_pos fun e dep => ?_]
    · simp
    · rw [values e dep]
      exact all e dep
  · intro i inLog ofTask name
    rw [latest i inLog ofTask, get?_visibleInputs inputs name all]
    split
    next same => rw [values name same]
    · rfl
  · intro i inLog ofTask
    rw [latest i inLog ofTask]
    exact lookup_append_of_fresh fresh
  · intro unseen
    exact absurd rfl (unseen _ (List.mem_append_right _ List.mem_cons_self))

/-- A run accounts for every task that it dealt with. The induction is on the run: one step
accounts for its own task and keeps what is known of the others. -/
theorem account (run : Run g inputs results log) :
    ∀ t ∈ g.tasks, t.spec.name ∈ results.map (·.1) → Account inputs results log t.spec := by
  induction run with
  | start => simp
  | @leave results log u d before mem fresh placed failed ih =>
      intro t inGraph named
      by_cases same : t.spec.name = u.spec.name
      · rw [task_eq inGraph mem same]
        exact before.account_leave fresh placed failed
      · have earlier : t.spec.name ∈ results.map (·.1) := by simpa [same] using named
        have kept : Account inputs (results ++ [(u.spec.name, .error (.dependencyFailed d))])
            (log ++ []) t.spec :=
          (ih t inGraph earlier).append earlier (before.placed_of_mem inGraph earlier) (by simp)
        rwa [List.append_nil] at kept
  | @invoke results log u before mem fresh placed ready outcome ih =>
      intro t inGraph named
      by_cases same : t.spec.name = u.spec.name
      · rw [task_eq inGraph mem same]
        exact before.account_invoke fresh placed ready outcome
      · have earlier : t.spec.name ∈ results.map (·.1) := by simpa [same] using named
        refine (ih t inGraph earlier).append earlier (before.placed_of_mem inGraph earlier) ?_
        intro i inLog
        rw [List.mem_singleton.1 inLog]
        exact Ne.symm same

end Run

end TaskGraph

end SqlGrader
