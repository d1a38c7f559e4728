import SqlGrader.Task.Graph
/-!
# Registries

A registry holds tasks in the order in which they were registered, and an index from their names to
their places, through which names are looked up. A call changes it in place and step by step, so
nothing but the order of its steps keeps a call that fails from leaving something behind.
-/

namespace SqlGrader

/-- Registered tasks with an index of their names. -/
structure Registry (m : Type → Type) (V : Type) where
  name : String
  tasks : List (Task m V)
  /-- The places of the tasks under their names. -/
  index : Keyed Nat

namespace Registry

variable {m : Type → Type} {V : Type}

/-- The registry without tasks. -/
def empty (name : String) : Registry m V := ⟨name, [], []⟩

def plan (r : Registry m V) : Plan := r.tasks.map (·.spec)

/-- Whether the index has the name. -/
def knows (r : Registry m V) (name : String) : Bool := (Keyed.get? name r.index).isSome

/-- The first dependency of the task that the index does not have. -/
def missingDependency? (r : Registry m V) (t : TaskSpec) : Option String :=
  t.dependsOn.find? fun d => !r.knows d

/-- What a call does to a registry, with its answer. -/
abbrev Call (m : Type → Type) (V : Type) := ExceptT PlanError (StateM (Registry m V))

/-- Puts a task at the end, unless its name is taken. -/
def insert (t : Task m V) : Call m V Unit := do
  if (← get).knows t.spec.name then throw (.duplicateTask t.spec.name)
  modify fun r => { r with index := Keyed.insert t.spec.name r.tasks.length r.index }
  modify fun r => { r with tasks := r.tasks ++ [t] }

/-- Registers a task whose dependencies are all registered already. -/
def add (t : Task m V) : Call m V Unit := do
  if (← get).knows t.spec.name then throw (.duplicateTask t.spec.name)
  match (← get).missingDependency? t.spec with
  | some d => throw (.unknownDependency t.spec.name d)
  | none => insert t

/-- The answers to a history of calls, each of which may fail. -/
def addAll (tasks : List (Task m V)) : StateM (Registry m V) (List (Except PlanError Unit)) :=
  tasks.mapM fun t => (add t).run

/-- Puts tasks at the end, up to the first one whose name is taken. -/
def insertAll (tasks : List (Task m V)) : Call m V Unit := tasks.forM insert

/-- The registry of tasks in any order, whose names must differ. -/
def ofTasks (name : String) (tasks : List (Task m V)) : Except PlanError (Registry m V) :=
  match (insertAll tasks).run (empty name) with
  | (.ok (), r) => .ok r
  | (.error e, _) => .error e

end Registry

end SqlGrader
