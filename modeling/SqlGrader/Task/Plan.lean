/-!
# Plans

A plan declares tasks by name, each with the tasks that it depends on. A plan is in order if every
dependency is declared and no task depends on itself through others. Then the tasks can be put
into an order in which each comes after its dependencies; of all such orders the plan takes the
one that comes first by place of declaration.
-/

namespace SqlGrader

/-- What is declared of a task. -/
structure TaskSpec where
  name : String
  dependsOn : List String
  description : Option String
  deriving Repr, DecidableEq

/-- Why a plan cannot be made or carried out. -/
inductive PlanError
  | duplicateTask (task : String)
  | unknownDependency (task dependency : String)
  /-- The tasks on the way around, the first one again at the end. -/
  | cycle (path : List String)
  | unknownTask (task : String)
  deriving Repr, DecidableEq

def PlanError.message : PlanError → String
  | .duplicateTask task => s!"task '{task}' already exists in graph"
  | .unknownDependency task dependency =>
    s!"dependency '{dependency}' not found for task '{task}'"
  | .cycle path => "cycle detected: " ++ " -> ".intercalate path
  | .unknownTask task => s!"task '{task}' not found"

/-- The declared tasks, in order of declaration. -/
abbrev Plan := List TaskSpec

namespace Plan

def names (p : Plan) : List String := p.map (·.name)

/-- The task of that name. -/
def task? (p : Plan) (name : String) : Option TaskSpec := p.find? (·.name == name)

def declares (p : Plan) (name : String) : Bool := p.any (·.name == name)

theorem declares_iff {p : Plan} {name : String} : p.declares name ↔ name ∈ p.names := by
  simp [declares, names]

/-- What the task of that name depends on; nothing if there is none. -/
def dependenciesOf (p : Plan) (name : String) : List String :=
  match p.task? name with
  | some t => t.dependsOn
  | none => []

/-- The tasks that list a dependency on `name`. -/
def dependents (p : Plan) (name : String) : List String :=
  (p.filter fun t => t.dependsOn.contains name).map (·.name)

/-- How many dependencies are listed, repetitions included. -/
def edgeCount (p : Plan) : Nat := p.foldl (fun count t => count + t.dependsOn.length) 0

/-- The first dependency of the task that the plan does not declare. -/
def missingDependency? (p : Plan) (t : TaskSpec) : Option String :=
  t.dependsOn.find? fun d => !p.declares d

/-- The first task with a dependency that is not declared, and the dependency. -/
def unknownDependency? (p : Plan) : Option PlanError :=
  p.findSome? fun t => (p.missingDependency? t).map (.unknownDependency t.name)

/-- The way from `name` along the stack of tasks under search, the last one first, back to `name`.
-/
def closedPath (name : String) (stack : List String) : List String :=
  (stack.takeWhile (· != name) ++ [name]).reverse ++ [name]

mutual

/-- Searches for a cycle from `name` on. `stack` holds the tasks on the way to it, the last one
first, `done` the tasks from which no cycle can be reached. The result is a cycle or the tasks
that are done. The search goes no deeper than there are tasks. -/
def search (p : Plan) : (fuel : Nat) → (stack done : List String) → (name : String) →
    Except (List String) (List String)
  | 0, _, done, _ => .ok done
  | fuel + 1, stack, done, name => do
    let done ← searchAll p fuel (name :: stack) done (p.dependenciesOf name)
    .ok (name :: done)

/-- Searches from each of the names that is declared and not done. -/
def searchAll (p : Plan) (fuel : Nat) (stack done : List String) :
    List String → Except (List String) (List String)
  | [] => .ok done
  | d :: ds => do
    if stack.contains d then .error (closedPath d stack)
    else if done.contains d || !p.declares d then searchAll p fuel stack done ds
    else
      let done ← search p fuel stack done d
      searchAll p fuel stack done ds

end

/-- The first cycle that a search in order of declaration finds. -/
def cycle? (p : Plan) : Option (List String) :=
  match searchAll p p.length [] [] p.names with
  | .error path => some path
  | .ok _ => none

/-- Whether every dependency is declared and there is no cycle. -/
def validate (p : Plan) : Except PlanError Unit :=
  match p.unknownDependency? with
  | some e => .error e
  | none =>
    match p.cycle? with
    | some path => .error (.cycle path)
    | none => .ok ()

/-- The first waiting task whose dependencies have all been placed, and the other waiting tasks. -/
def takeReady? (placed : List String) : List TaskSpec → Option (TaskSpec × List TaskSpec)
  | [] => none
  | t :: ts =>
    if t.dependsOn.all placed.contains then some (t, ts)
    else (takeReady? placed ts).map fun r => (r.1, t :: r.2)

theorem length_takeReady? {placed : List String} {waiting rest : List TaskSpec} {t : TaskSpec}
    (h : takeReady? placed waiting = some (t, rest)) : rest.length + 1 = waiting.length := by
  induction waiting generalizing rest with
  | nil => simp [takeReady?] at h
  | cons u us ih =>
    simp only [takeReady?] at h
    split at h
    · simp only [Option.some.injEq, Prod.mk.injEq] at h
      simp [← h.2]
    · obtain ⟨⟨v, vs⟩, hv, hr⟩ := Option.map_eq_some_iff.1 h
      simp only [Prod.mk.injEq] at hr
      obtain ⟨rfl, rfl⟩ := hr
      simp [← ih hv]

/-- Places the waiting tasks one after the other, as long as one is ready. -/
def placeFrom (placed : List String) (waiting : List TaskSpec) : List String :=
  match _h : takeReady? placed waiting with
  | none => []
  | some (t, rest) => t.name :: placeFrom (t.name :: placed) rest
termination_by waiting.length
decreasing_by have := length_takeReady? _h; omega

/-- The order in which the tasks are carried out. -/
def order (p : Plan) : Except PlanError (List String) :=
  match p.validate with
  | .error e => .error e
  | .ok () =>
    let placed := placeFrom [] p
    if placed.length = p.length then .ok placed else .error (.cycle (p.cycle?.getD []))

end Plan

end SqlGrader
