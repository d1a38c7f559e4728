import SqlGrader.Task.Run
import SqlGrader.Json.Basic
/-!
# Task logs

What is kept of a run of tasks, and what is shown of a task: JSON with the names and failures,
without the values.
-/

namespace SqlGrader

def TaskFailure.toJson : TaskFailure → Json
  | .execution message => .object [("kind", .string "execution"), ("message", .string message)]
  | .crashed message => .object [("kind", .string "panicked"), ("message", .string message)]
  | .dependencyFailed dependency =>
    .object [("kind", .string "dependency_failed"), ("dependency", .string dependency)]

namespace RunReport

variable {V : Type}

/-- The result of one task. -/
def resultJson (name : String) (r : TaskResult V) : Json :=
  .object ([("task_name", .string name), ("success", .bool r.isSuccess)] ++
    Json.memberIfSome "error" TaskFailure.toJson r.failure?)

def failureJson (name : String) (f : TaskFailure) : Json :=
  .object [("task", .string name), ("cause", .string f.text)]

/-- The log of a run. -/
def toJson (r : RunReport V) : Json :=
  .object [("graph", .string r.graphName), ("order", .strings r.order),
    ("succeeded", .nat r.succeeded), ("failed", .nat r.failed),
    ("tasks", .array (r.results.map fun p => resultJson p.1 p.2)),
    ("failures", .array (r.failures.map fun f => failureJson f.1 f.2))]

end RunReport

namespace TaskInfo

/-- What is shown of the outcome of a task. -/
def outcomeJson : Option (Except TaskFailure Unit) → List (String × Json)
  | none => []
  | some (.ok ()) => [("success", .bool true)]
  | some (.error f) => [("success", .bool false), ("error", .string f.text)]

def toJson (i : TaskInfo) : Json :=
  .object ([("name", .string i.name), ("description", Json.optional .string i.description),
    ("dependencies", .strings i.dependencies), ("dependents", .strings i.dependents),
    ("executed", .bool i.outcome.isSome)] ++ outcomeJson i.outcome)

end TaskInfo

end SqlGrader
