import SqlGrader.Task.Graph
/-!
# Running a task graph

The tasks run one after the other in the order of the plan. A body sees the inputs of the run and,
in front of them, the values of the tasks that it depends on. Where a dependency gave no value the
body is left out, and the task fails naming the first such dependency. Nothing that a body does
stops the run; a plan that is not in order starts none.
-/

namespace SqlGrader

/-- Why a task gave no value in a run. -/
inductive TaskFailure
  | execution (message : String)
  | crashed (message : String)
  /-- The body did not run, since the dependency gave no value. -/
  | dependencyFailed (dependency : String)
  deriving Repr, DecidableEq

def TaskFailure.text : TaskFailure → String
  | .execution message => message
  | .crashed message => s!"task panicked: {message}"
  | .dependencyFailed dependency => s!"dependency '{dependency}' failed"

/-- What a task gave in a run. -/
abbrev TaskResult (V : Type) := Except TaskFailure V

/-- The results of a run, in the order in which the tasks were dealt with. -/
structure RunReport (V : Type) where
  graphName : String
  results : List (String × TaskResult V)

namespace TaskResult

variable {V : Type}

def isSuccess : TaskResult V → Bool
  | .ok _ => true
  | .error _ => false

def value? : TaskResult V → Option V
  | .ok v => some v
  | .error _ => none

def failure? : TaskResult V → Option TaskFailure
  | .ok _ => none
  | .error f => some f

/-- What comes of running a body. -/
def ofAttempt : Attempt TaskError V → TaskResult V
  | .value v => .ok v
  | .error e => .error (.execution e.message)
  | .crash message => .error (.crashed (Attempt.crashText message))

end TaskResult

namespace RunReport

variable {V : Type}

def order (r : RunReport V) : List String := r.results.map (·.1)

def result? (r : RunReport V) (name : String) : Option (TaskResult V) := r.results.lookup name

/-- The number of tasks that gave a value. -/
def succeeded (r : RunReport V) : Nat := (r.results.filter (·.2.isSuccess)).length

/-- The number of tasks that gave none. -/
def failed (r : RunReport V) : Nat := r.results.length - r.succeeded

def isSuccess (r : RunReport V) : Bool := r.failed == 0

/-- The tasks that gave no value, and why. -/
def failures (r : RunReport V) : List (String × TaskFailure) :=
  r.results.filterMap fun p => p.2.failure?.map fun f => (p.1, f)

end RunReport

namespace TaskGraph

variable {m : Type → Type} {V : Type}

/-- The first dependency that gave no value. -/
def failedDependency? (results : List (String × TaskResult V)) (t : TaskSpec) : Option String :=
  t.dependsOn.find? fun d => !(results.lookup d).any (·.isSuccess)

/-- The inputs of the run with the values of the dependencies in front of them. -/
def visibleInputs (inputs : Inputs V) (results : List (String × TaskResult V)) (t : TaskSpec) :
    Inputs V :=
  t.dependsOn.foldl (fun seen d =>
    match (results.lookup d).bind TaskResult.value? with
    | some v => Keyed.insert d v seen
    | none => seen) inputs

variable [Monad m]

/-- The result of a task after the results so far. -/
def runTask (inputs : Inputs V) (results : List (String × TaskResult V)) (t : Task m V) :
    m (TaskResult V) :=
  match failedDependency? results t.spec with
  | some d => pure (.error (.dependencyFailed d))
  | none => TaskResult.ofAttempt <$> t.body (visibleInputs inputs results t.spec)

/-- Deals with the named tasks in turn, adding to the results so far. -/
def runFrom (g : TaskGraph m V) (inputs : Inputs V) (results : List (String × TaskResult V)) :
    List String → m (List (String × TaskResult V))
  | [] => pure results
  | name :: names =>
    match g.task? name with
    | none => runFrom g inputs results names
    | some t => do
      let r ← runTask inputs results t
      runFrom g inputs (results ++ [(name, r)]) names

/-- Runs every task once. -/
def execute (g : TaskGraph m V) (inputs : Inputs V) : m (Except PlanError (RunReport V)) :=
  match g.plan.order with
  | .error e => pure (.error e)
  | .ok order => (fun results => .ok ⟨g.name, results⟩) <$> g.runFrom inputs [] order

end TaskGraph

/-- What is known of a task, before and after a run. -/
structure TaskInfo where
  name : String
  description : Option String
  dependencies : List String
  dependents : List String
  /-- Whether the run held a result of the task, and which one. -/
  outcome : Option (Except TaskFailure Unit)
  deriving Repr

/-- What is known of a task of a plan. -/
def Plan.info {V : Type} (p : Plan) (name : String) (report : Option (RunReport V)) :
    Except PlanError TaskInfo :=
  match p.task? name with
  | none => .error (.unknownTask name)
  | some t => .ok {
      name := t.name, description := t.description, dependencies := t.dependsOn
      dependents := p.dependents name
      outcome := (report.bind (·.result? name)).map fun r => r.map fun _ => () }

end SqlGrader
