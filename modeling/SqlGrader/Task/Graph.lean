import SqlGrader.Task.Plan
import SqlGrader.Attempt
import SqlGrader.Keyed
/-!
# Task graphs

A task graph is a plan whose tasks can be carried out. The body of a task sees inputs by name and
gives a value, an error or a crash; it may act in a monad. Tasks are added one by one, after their
dependencies, or all at once in any order.
-/

namespace SqlGrader

/-- Why the body of a task gives no value. -/
inductive TaskError
  | missingInput (name : String)
  /-- An input is not of the type that is expected of it. -/
  | inputType (name expected : String)
  | failed (message : String)
  deriving Repr, DecidableEq

def TaskError.message : TaskError → String
  | .missingInput name => s!"missing input '{name}'"
  | .inputType name expected => s!"input '{name}' is not a {expected}"
  | .failed message => message

/-- The values that the body of a task sees. -/
abbrev Inputs (V : Type) := Keyed V

namespace Inputs

variable {V α : Type}

/-- The input of that name, which must be one that `read` accepts. -/
def read (read : V → Option α) (expected name : String) (inputs : Inputs V) : Except TaskError α :=
  match Keyed.get? name inputs with
  | none => .error (.missingInput name)
  | some v =>
    match read v with
    | some a => .ok a
    | none => .error (.inputType name expected)

end Inputs

/-- A declared task with its body, which acts in `m` and works on values of type `V`. -/
structure Task (m : Type → Type) (V : Type) where
  spec : TaskSpec
  body : Inputs V → m (Attempt TaskError V)

/-- Tasks in order of declaration, no two of them under one name. -/
structure TaskGraph (m : Type → Type) (V : Type) where
  name : String
  tasks : List (Task m V)
  names_nodup : (tasks.map (·.spec.name)).Nodup

namespace TaskGraph

variable {m : Type → Type} {V : Type}

/-- The graph without tasks. -/
def empty (name : String) : TaskGraph m V := ⟨name, [], by simp⟩

def plan (g : TaskGraph m V) : Plan := g.tasks.map (·.spec)

def task? (g : TaskGraph m V) (name : String) : Option (Task m V) :=
  g.tasks.find? (·.spec.name == name)

/-- Names stay different when a task is added under a name that no task has. -/
theorem names_nodup_append {g : TaskGraph m V} {t : Task m V}
    (h : ¬ g.plan.declares t.spec.name) :
    ((g.tasks ++ [t]).map (·.spec.name)).Nodup := by
  rw [List.map_append, List.nodup_append]
  refine ⟨g.names_nodup, by simp, ?_⟩
  intro a ha b hb heq
  obtain ⟨u, hu, rfl⟩ := List.mem_map.1 ha
  rw [List.map_singleton, List.mem_singleton] at hb
  exact h (List.any_eq_true.2 ⟨u.spec, List.mem_map.2 ⟨u, hu, rfl⟩, by simp [heq, hb]⟩)

/-- The graph with a task at its end, unless its name is taken. -/
def push (g : TaskGraph m V) (t : Task m V) : Except PlanError (TaskGraph m V) :=
  if h : g.plan.declares t.spec.name then .error (.duplicateTask t.spec.name)
  else .ok ⟨g.name, g.tasks ++ [t], names_nodup_append h⟩

/-- Adds a task whose dependencies are all there already. -/
def add (g : TaskGraph m V) (t : Task m V) : Except PlanError (TaskGraph m V) :=
  if g.plan.declares t.spec.name then .error (.duplicateTask t.spec.name)
  else match g.plan.missingDependency? t.spec with
    | some d => .error (.unknownDependency t.spec.name d)
    | none => g.push t

/-- The graph of tasks in any order, whose names must differ. -/
def ofTasks (name : String) (tasks : List (Task m V)) : Except PlanError (TaskGraph m V) :=
  tasks.foldlM push (empty name)

end TaskGraph

end SqlGrader
