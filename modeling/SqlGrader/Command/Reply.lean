import SqlGrader.Command.Request
import SqlGrader.Command.Failure
import SqlGrader.Database.ConnectionUrl
import SqlGrader.Database.Server
/-!
# Replies

What a command does and answers. A run takes its settings from a file and from the arguments,
which count before it; it makes a directory for itself, runs the pipeline and shows the report. A
comparison shows the verdicts on one prediction. Only databases of one engine can be asked; where
such a database cannot be reached a run goes on without it, and a comparison fails.
-/

namespace SqlGrader.Command

/-- What a command shows, and why it failed if it did. -/
structure Reply where
  shown : Option Artifact
  error : Option CommandError

namespace Reply

def usage : String :=
  "Usage: sqlscore <run|compare|plan> [options]\n" ++
  "\n" ++
  "run      [--config PATH] [--dataset PATH] [--predictions PATH] " ++
  "[--db-url URL] [--out-dir DIR]\n" ++
  "         [--workers N] [--statement-timeout-ms N] [--retries N] [--metrics NAME,...]\n" ++
  "compare  --reference SQL --predicted SQL [--db-url URL] [--statement-timeout-ms N]\n" ++
  "         [--float-precision N]\n" ++
  "plan     [--json]"

def display (a : Artifact) : Reply := ⟨some a, none⟩

def fail (e : CommandError) : Reply := ⟨none, some e⟩

def exitCode (r : Reply) : Nat :=
  match r.error with
  | some e => e.exitCode
  | none => 0

/-- What goes to the output of a command. -/
def output (r : Reply) : String :=
  match r.shown with
  | some a => a.printed
  | none => ""

/-- What goes to the output for diagnostics. -/
def diagnostics (r : Reply) : String :=
  match r.error with
  | some .misuse => usage ++ "\n"
  | some e => "Error: " ++ e.text ++ "\n"
  | none => ""

/-- The version of the program. -/
def version : String := "sqlscore 0.1.0"

def ofStop : Stop → Reply
  | .help => display (.text usage)
  | .version => display (.text version)
  | .misuse => fail .misuse

end Reply

/-- The file of settings that is read if none is named. -/
def defaultConfig : String := "sqlscore.toml"

/-- Whether a connection string is of an engine that can be asked. -/
def isKnownEngine (url : Text) : Bool :=
  "postgres://".toList.isPrefixOf url || "postgresql://".toList.isPrefixOf url

def checkEngine (url : Text) : Except CommandError Unit :=
  if isKnownEngine url then .ok () else .error (.unsupportedEngine (RedactedUrl.ofText url).display)

/-- The settings with those of the arguments in front of them. -/
def RunOptions.override (o : RunOptions) (s : Settings) : Settings :=
  { s with
    datasetPath := o.dataset.getD s.datasetPath
    predictionsPath := o.predictions <|> s.predictionsPath
    databaseUrl := o.databaseUrl <|> s.databaseUrl
    outputDir := o.outputDir.getD s.outputDir
    maxWorkers := o.workers.getD s.maxWorkers
    statementTimeoutMs := o.statementTimeoutMs.getD s.statementTimeoutMs
    retries := o.retries.getD s.retries
    metrics := if o.metrics.isEmpty then s.metrics else o.metrics }

section Plan

/-- A text with spaces in front of it, up to a width. -/
def padStart (width : Nat) (s : String) : String := "".pushn ' ' (width - s.length) ++ s

/-- A text with spaces behind it, up to a width. -/
def padEnd (width : Nat) (s : String) : String := s.pushn ' ' (width - s.length)

/-- The lines that show a task. -/
def taskLines (number : Nat) (i : TaskInfo) : List String :=
  let description := i.description.getD ""
  s!"{padStart 2 (toString number)}. {padEnd 20 i.name} {description}" ::
    if i.dependencies.isEmpty then [] else ["      depends on: " ++ ", ".intercalate i.dependencies]

/-- The lines that show all tasks. -/
def planLines (tasks : List TaskInfo) : List String :=
  s!"{Pipeline.graphName} ({tasks.length} tasks)" ::
    tasks.zipIdx.flatMap fun t => taskLines (t.2 + 1) t.1

/-- Shows the tasks of a run. -/
def plan (asJson : Bool) : Reply :=
  match Pipeline.listing with
  | .error e => .fail (.plan e)
  | .ok tasks =>
    if asJson then .display (.json (.array (tasks.map TaskInfo.toJson)))
    else .display (.text ("\n".intercalate (planLines tasks)))

end Plan

variable {m : Type → Type} [Monad m]

/-- The verdicts on a prediction, by the names of the metrics. -/
def verdicts (o : CompareOptions) (handle : Option (Handle m)) : m (Keyed (Verdict Float)) :=
  let kinds := [MetricKind.exactMatch, MetricKind.componentMatch] ++
    if handle.isSome then [MetricKind.executionMatch] else []
  let options := { ExecutionMatch.defaults with floatPrecision := o.floatPrecision }
  Suite.evaluate (MetricKind.suite kinds options) ⟨"cli", o.reference, o.predicted, handle⟩

/-- The handle of a comparison: none without a connection string that is not blank. -/
def compareHandle (o : CompareOptions) (environment : Option Text) :
    Except CommandError (Option (Handle m)) :=
  match (o.databaseUrl <|> environment).filter fun url => !Text.isAllBlank url with
  | none => .ok none
  | some url => do
    checkEngine url
    let options := { Server.defaults with statementTimeoutMs := o.statementTimeoutMs }
    match Server.openHandle url options with
    | .ok h => .ok (some h)
    | .error f => .error (.database f)

/-- Compares two statements. -/
def compare (host : Host m) (o : CompareOptions) : m Reply :=
  if Text.isAllBlank o.reference || Text.isAllBlank o.predicted then pure (.fail .blankStatement)
  else
    match compareHandle o host.databaseUrl with
    | .error e => pure (.fail e)
    | .ok handle => do
      let results ← verdicts o handle
      pure (.display (.json (.object (results.map fun p => (p.1, p.2.toJson)))))

/-- The settings in a file. -/
def readSettings (host : Host m) (path : String) : m (Except CommandError Settings) := do
  match ← host.read path with
  | .error f => pure (.error (.file f))
  | .ok t =>
    match Settings.ofText t with
    | .ok s => pure (.ok s)
    | .error .malformed => pure (.error (.malformedSettings path))
    | .error e => pure (.error (.settings e))

/-- The settings in the file that is named, else in the default file if there is one, else the
defaults. -/
def findSettings (host : Host m) (config : Option String) : m (Except CommandError Settings) := do
  match config with
  | some path => readSettings host path
  | none =>
    if ← host.hasFile defaultConfig then readSettings host defaultConfig
    else pure (.ok Settings.defaults)

/-- The settings of a run and its connection string, after all checks. -/
def prepare (host : Host m) (o : RunOptions) :
    m (Except CommandError (Settings × Option Text)) := do
  match ← findSettings host o.config with
  | .error e => pure (.error e)
  | .ok found =>
    let settings := o.override found
    match settings.validate with
    | .error e => pure (.error (.settings e))
    | .ok () =>
      let url := settings.resolvedUrl host.databaseUrl
      match url.map checkEngine with
      | some (.error e) => pure (.error e)
      | _ => pure (.ok (settings, url))

/-- What is kept of the beginning of a run. -/
def configRecord (id : String) (started : Timestamp) (settings : Settings) (url : Option Text) :
    Json :=
  .object [("run_id", .string id), ("started_at", .string started.forDocument),
    ("record_version", .string Pipeline.recordVersion), ("settings", settings.toJson),
    ("connection", Json.optional (fun u => (RedactedUrl.ofText u).toJson) url)]

/-- Makes the directory of a run and what stands in it from the beginning. -/
def startRun (host : Host m) (settings : Settings) (url : Option Text) :
    m (Except FileFault String) := do
  let id ← host.freshId
  let started ← host.now
  let directory := Host.joinPath settings.outputDir s!"{started.forFileName}__run_{id}"
  match ← host.makeDirectory directory with
  | .error f => pure (.error f)
  | .ok () =>
    let config := configRecord id started settings url
    match ← host.write (Host.joinPath directory "config.json") (.json config) with
    | .error f => pure (.error f)
    | .ok () =>
      let written ← host.write (Host.joinPath directory "logs.ndjson") (.log [])
      pure (written.map fun () => directory)

/-- The handle of a run: none if no metric needs one, or if the database cannot be reached. -/
def runHandle (settings : Settings) (url : Option Text) : Option (Handle m) :=
  if settings.needsDatabase then
    url.bind fun u =>
      let options := { Server.defaults with
        statementTimeoutMs := settings.statementTimeoutMs
        maxConnections := settings.maxConnections }
      (Server.openHandle u options).toOption
  else none

/-- The reply to a run of the pipeline. -/
def runReply : Except Pipeline.RunError (RunReport (Product m)) → Reply
  | .error (.plan e) => .fail (.plan e)
  | .error (.log f) => .fail (.file f)
  | .ok report => {
      shown := (Pipeline.product? report .renderReport Product.report?).map .text
      error := if report.isSuccess then none else some (.failedTasks report.failed) }

/-- Runs a benchmark. -/
def run (host : Host m) (o : RunOptions) : m Reply := do
  match ← prepare host o with
  | .error e => pure (.fail e)
  | .ok (settings, url) =>
    match ← startRun host settings url with
    | .error f => pure (.fail (.runDirectory f))
    | .ok runDir => runReply <$> Pipeline.run host ⟨settings, runDir, runHandle settings url, none⟩

/-- Does what is asked for. -/
def perform (host : Host m) : Request → m Reply
  | .run o => run host o
  | .compare o => compare host o
  | .plan asJson => pure (plan asJson)

/-- Does what the arguments of a command ask for. -/
def answer (host : Host m) (arguments : List String) : m Reply :=
  match Request.ofArguments arguments with
  | .error stop => pure (.ofStop stop)
  | .ok request => perform host request

end SqlGrader.Command
