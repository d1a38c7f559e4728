import SqlGrader.Command.Options
import SqlGrader.Score.MetricKind
/-!
# Requests

What a user asks for on the command line: to run a benchmark, to compare two statements, or to see
the tasks of a run.
-/

namespace SqlGrader.Command

/-- What a run of a benchmark is told beside its file of settings. -/
structure RunOptions where
  /-- The file of settings. -/
  config : Option String
  dataset : Option String
  predictions : Option String
  databaseUrl : Option Text
  outputDir : Option String
  workers : Option Nat
  statementTimeoutMs : Option Nat
  retries : Option Nat
  /-- The metrics; those of the settings if there are none. -/
  metrics : List MetricKind
  deriving Repr, DecidableEq

structure CompareOptions where
  reference : Text
  predicted : Text
  databaseUrl : Option Text
  statementTimeoutMs : Nat
  floatPrecision : Nat
  deriving Repr, DecidableEq

inductive Request
  | run (o : RunOptions)
  | compare (o : CompareOptions)
  | plan (asJson : Bool)
  deriving Repr, DecidableEq

/-- The metrics in a list with commas. -/
def metrics? (value : String) : Option (List MetricKind) :=
  (Text.splitAt ',' value.toList).mapM fun t =>
    match MetricKind.ofUserText (String.ofList t) with
    | .ok k => some k
    | .error _ => none

namespace RunOptions

def specs : List OptionSpec :=
  [pathOption "config", pathOption "dataset", pathOption "predictions", textOption "db-url",
    pathOption "out-dir", naturalOption "workers" 64, naturalOption "statement-timeout-ms" 64,
    naturalOption "retries" 32, ⟨"metrics", .many, fun value => (metrics? value).isSome⟩]

def ofGiven (given : Given) : RunOptions where
  config := given.value? "config"
  dataset := given.value? "dataset"
  predictions := given.value? "predictions"
  databaseUrl := (given.value? "db-url").map String.toList
  outputDir := given.value? "out-dir"
  workers := (given.value? "workers").bind (natural? 64)
  statementTimeoutMs := (given.value? "statement-timeout-ms").bind (natural? 64)
  retries := (given.value? "retries").bind (natural? 32)
  metrics := (given.values "metrics").flatMap fun value => (metrics? value).getD []

end RunOptions

namespace CompareOptions

def specs : List OptionSpec :=
  [textOption "reference", textOption "predicted", textOption "db-url",
    naturalOption "statement-timeout-ms" 64, naturalOption "float-precision" 32]

def ofGiven (given : Given) : Except Stop CompareOptions :=
  match given.value? "reference", given.value? "predicted" with
  | some reference, some predicted => .ok {
      reference := reference.toList
      predicted := predicted.toList
      databaseUrl := (given.value? "db-url").map String.toList
      statementTimeoutMs := ((given.value? "statement-timeout-ms").bind (natural? 64)).getD 30000
      floatPrecision := ((given.value? "float-precision").bind (natural? 32)).getD 10 }
  | _, _ => .error .misuse

end CompareOptions

namespace Request

def planSpecs : List OptionSpec := [⟨"json", .flag, fun _ => true⟩]

/-- The names of the requests. -/
def names : List String := ["run", "compare", "plan"]

/-- A wish for help about a request, or about all of them. -/
def helpOn : List String → Stop
  | [] => .help
  | [name] => if names.contains name || name = "help" then .help else .misuse
  | _ => .misuse

/-- What an argument in front of the name of a request stands for. -/
def leadingStop (arg : Text) : Stop :=
  if arg = "--help".toList || arg.take 2 = ['-', 'h'] then .help
  else if arg = "--version".toList || arg.take 2 = ['-', 'V'] then .version
  else .misuse

/-- The request that the arguments of a command make. -/
def ofArguments : List String → Except Stop Request
  | [] => .error .misuse
  | "run" :: args => (readOptions RunOptions.specs [] args).map fun g => run (RunOptions.ofGiven g)
  | "compare" :: args => do
    let given ← readOptions CompareOptions.specs [] args
    (CompareOptions.ofGiven given).map compare
  | "plan" :: args => (readOptions planSpecs [] args).map fun g => plan (g.has "json")
  | "help" :: args => .error (helpOn args)
  | arg :: _ => .error (leadingStop arg.toList)

end Request

end SqlGrader.Command
