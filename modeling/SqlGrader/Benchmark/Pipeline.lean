import SqlGrader.Benchmark.Dataset
import SqlGrader.Benchmark.Grading
import SqlGrader.Benchmark.Host
import SqlGrader.Benchmark.Report
import SqlGrader.Benchmark.Settings
import SqlGrader.Task.Log
/-!
# The benchmark pipeline

A benchmark is run as a graph of seven tasks: questions and predictions are read, the metrics
built, every question graded, the records summed up, the report rendered and the results written.
A task that fails keeps those that depend on it from running, and the log of the tasks is written
in any case.
-/

namespace SqlGrader

/-- The tasks of the pipeline. -/
inductive Stage
  | loadDataset
  | loadPredictions
  | initializeMetrics
  | evaluateExamples
  | aggregateResults
  | renderReport
  | saveResults
  deriving Repr, DecidableEq

namespace Stage

def all : List Stage :=
  [loadDataset, loadPredictions, initializeMetrics, evaluateExamples, aggregateResults,
    renderReport, saveResults]

def name : Stage → String
  | loadDataset => "load_dataset"
  | loadPredictions => "load_predictions"
  | initializeMetrics => "initialize_metrics"
  | evaluateExamples => "evaluate_examples"
  | aggregateResults => "aggregate_results"
  | renderReport => "render_report"
  | saveResults => "save_results"

def dependsOn : Stage → List Stage
  | loadDataset => []
  | loadPredictions => [loadDataset]
  | initializeMetrics => []
  | evaluateExamples => [loadDataset, loadPredictions, initializeMetrics]
  | aggregateResults => [evaluateExamples, initializeMetrics]
  | renderReport => [aggregateResults, evaluateExamples]
  | saveResults => [evaluateExamples, aggregateResults, renderReport]

def description : Stage → String
  | loadDataset => "Read benchmark questions and reference queries"
  | loadPredictions => "Resolve the predictor that supplies candidate SQL"
  | initializeMetrics => "Build the enabled metrics"
  | evaluateExamples => "Predict and score every question"
  | aggregateResults => "Summarize scores overall and per difficulty"
  | renderReport => "Render the markdown summary"
  | saveResults => "Write evaluation.json and report.md"

/-- What the task gives. -/
def productName : Stage → String
  | loadDataset => "list of questions"
  | loadPredictions => "predictor"
  | initializeMetrics => "suite of metrics"
  | evaluateExamples => "evaluation"
  | aggregateResults => "summary"
  | renderReport => "report"
  | saveResults => "pair of paths"

def spec (s : Stage) : TaskSpec := ⟨s.name, s.dependsOn.map name, some s.description⟩

theorem names_nodup : (all.map (·.spec.name)).Nodup := by decide

end Stage

/-- The files that the results were written to. -/
structure SavedPaths where
  evaluation : String
  report : String
  deriving Repr, DecidableEq

/-- What the tasks hand on to each other. -/
inductive Product (m : Type → Type)
  | questions (questions : List Question)
  | predictor (p : Predictor m)
  | suite (s : Suite m)
  | evaluation (e : Evaluation Float)
  | summary (s : Summary Float)
  | report (t : String)
  | saved (paths : SavedPaths)

namespace Product

variable {m : Type → Type}

def questions? : Product m → Option (List Question)
  | questions qs => some qs
  | _ => none

def predictor? : Product m → Option (Predictor m)
  | predictor p => some p
  | _ => none

def suite? : Product m → Option (Suite m)
  | suite s => some s
  | _ => none

def evaluation? : Product m → Option (Evaluation Float)
  | evaluation e => some e
  | _ => none

def summary? : Product m → Option (Summary Float)
  | summary s => some s
  | _ => none

def report? : Product m → Option String
  | report t => some t
  | _ => none

def saved? : Product m → Option SavedPaths
  | saved paths => some paths
  | _ => none

end Product

/-- One run of a benchmark. -/
structure Job (m : Type → Type) where
  settings : Settings
  /-- The directory that the results are written to. -/
  runDir : String
  handle : Option (Handle m)
  /-- Supplies the predictions in the place of those that were recorded. -/
  predictor : Option (Predictor m)

/-- Why a file gives no questions or no predictions. -/
inductive LoadError
  | unreadable (f : FileFault)
  | malformed (path : String)
  | invalid (e : DatasetError)
  deriving Repr, DecidableEq

def LoadError.message : LoadError → String
  | .unreadable f => f.message
  | .malformed path => s!"invalid json in {path}: not of the form that is expected"
  | .invalid e => e.message

namespace Pipeline

def graphName : String := "text_to_sql_evaluation"

def plan : Plan := Stage.all.map Stage.spec

/-- The version of the form in which runs are kept. -/
def recordVersion : String := "0.1"

/-- How many entries the lists of the report have at most. -/
def reportLimit : Nat := 10

section Bodies

variable {m : Type → Type} [Monad m]

/-- The questions in a file. -/
def loadQuestions (host : Host m) (path : String) : m (Except LoadError (List Question)) := do
  match ← host.read path with
  | .error f => pure (.error (.unreadable f))
  | .ok t =>
    match Dataset.ofText t with
    | .ok questions => pure (.ok questions)
    | .error .malformed => pure (.error (.malformed path))
    | .error e => pure (.error (.invalid e))

/-- The predictions in a file. -/
def loadPredictions (host : Host m) (path : String) : m (Except LoadError Predictions) := do
  match ← host.read path with
  | .error f => pure (.error (.unreadable f))
  | .ok t =>
    match Predictions.ofText? t with
    | some predictions => pure (.ok predictions)
    | none => pure (.error (.malformed path))

/-- Whoever supplies the predictions of a job. A file of predictions counts before the questions. -/
def resolvePredictor (host : Host m) (job : Job m) (questions : List Question) :
    m (Except LoadError (Predictor m)) :=
  match job.predictor, job.settings.predictionsPath with
  | some p, _ => pure (.ok p)
  | none, none => pure (.ok (Predictions.ofQuestions questions).predictor)
  | none, some path => do
    let loaded ← loadPredictions host path
    pure (loaded.map fun recorded => ((Predictions.ofQuestions questions).merge recorded).predictor)

/-- The record of a run. -/
def runRecord (job : Job m) (time : Timestamp) (e : Evaluation Float) (s : Summary Float) : Json :=
  .object ([("record_version", .string recordVersion), ("evaluated_at", .string time.forDocument),
      ("settings", job.settings.toJson),
      ("backend", Json.optional (fun h : Handle m => .string h.backend) job.handle)] ++
    s.members ++ [("results", .array (e.records.map Record.toJson))])

/-- Writes the record and the report. -/
def save (host : Host m) (job : Job m) (e : Evaluation Float) (s : Summary Float)
    (report : String) : m (Except FileFault SavedPaths) := do
  let paths : SavedPaths :=
    ⟨Host.joinPath job.runDir "evaluation.json", Host.joinPath job.runDir "report.md"⟩
  let record := runRecord job (← host.now) e s
  match ← host.write paths.evaluation (.json record) with
  | .error f => pure (.error f)
  | .ok () =>
    match ← host.write paths.report (.text report) with
    | .error f => pure (.error f)
    | .ok () => pure (.ok paths)

/-- What an earlier task gave. -/
def given {α : Type} (inputs : Inputs (Product m)) (stage : Stage) (read : Product m → Option α) :
    ExceptT TaskError m α :=
  ExceptT.mk (pure (inputs.read read stage.productName stage.name))

/-- An action whose error ends the task with a message. -/
def orFail {ε α : Type} (message : ε → String) (action : m (Except ε α)) : ExceptT TaskError m α :=
  ExceptT.mk do
    let result ← action
    pure (result.mapError fun e => .failed (message e))

/-- What a task does. -/
def body (host : Host m) (job : Job m) (inputs : Inputs (Product m)) :
    Stage → ExceptT TaskError m (Product m)
  | .loadDataset =>
    .questions <$> orFail LoadError.message (loadQuestions host job.settings.datasetPath)
  | .loadPredictions => do
    let questions ← given inputs .loadDataset Product.questions?
    .predictor <$> orFail LoadError.message (resolvePredictor host job questions)
  | .initializeMetrics =>
    pure (.suite (MetricKind.suite job.settings.metrics job.settings.executionOptions))
  | .evaluateExamples => do
    let questions ← given inputs .loadDataset Product.questions?
    let predictor ← given inputs .loadPredictions Product.predictor?
    let suite ← given inputs .initializeMetrics Product.suite?
    let grader : Grader m := ⟨predictor, suite, job.handle, host.clock⟩
    .evaluation <$> grader.gradeAll job.settings.maxWorkers questions
  | .aggregateResults => do
    let evaluation ← given inputs .evaluateExamples Product.evaluation?
    let suite ← given inputs .initializeMetrics Product.suite?
    pure (.summary (Summary.ofEvaluation evaluation suite.names))
  | .renderReport => do
    let evaluation ← given inputs .evaluateExamples Product.evaluation?
    let summary ← given inputs .aggregateResults Product.summary?
    pure (.report (Report.render summary evaluation reportLimit))
  | .saveResults => do
    let evaluation ← given inputs .evaluateExamples Product.evaluation?
    let summary ← given inputs .aggregateResults Product.summary?
    let report ← given inputs .renderReport Product.report?
    .saved <$> orFail FileFault.message (save host job evaluation summary report)

/-- The task of a stage. -/
def task (host : Host m) (job : Job m) (s : Stage) : Task m (Product m) :=
  ⟨s.spec, fun inputs => Attempt.ofExcept <$> (body host job inputs s).run⟩

def graph (host : Host m) (job : Job m) : TaskGraph m (Product m) :=
  ⟨graphName, Stage.all.map (task host job), by rw [List.map_map]; exact Stage.names_nodup⟩

/-- Why a run has no report of its tasks. -/
inductive RunError
  | plan (e : PlanError)
  | log (f : FileFault)
  deriving Repr, DecidableEq

/-- Runs every task and writes the log of the tasks. -/
def run (host : Host m) (job : Job m) : m (Except RunError (RunReport (Product m))) := do
  match ← (graph host job).execute [] with
  | .error e => pure (.error (.plan e))
  | .ok report =>
    match ← host.write (Host.joinPath job.runDir "tasks.json") (.json report.toJson) with
    | .error f => pure (.error (.log f))
    | .ok () => pure (.ok report)

end Bodies

/-- What a stage gave in a run, as `read` sees it. -/
def product? {m : Type → Type} {α : Type} (report : RunReport (Product m)) (stage : Stage)
    (read : Product m → Option α) : Option α :=
  ((report.result? stage.name).bind TaskResult.value?).bind read

/-- The tasks in the order in which they are carried out. -/
def listing : Except PlanError (List TaskInfo) := do
  let order ← plan.order
  order.mapM fun name => plan.info (V := Unit) name none

end Pipeline

end SqlGrader
