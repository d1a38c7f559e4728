import SqlGrader.Toml.Reader
import SqlGrader.Score.MetricKind
/-!
# Settings

What a run is told: where its files are, how statements are run and compared, and which metrics
are asked for. Every setting has a default. A file of settings is a TOML table; names that are no
settings mean nothing, and values of another type or beyond their bounds spoil the file. Of
several settings that make no sense the first one, in a fixed order, is reported.
-/

namespace SqlGrader

structure Settings where
  datasetPath : String
  predictionsPath : Option String
  outputDir : String
  /-- The connection string; it is never written anywhere. -/
  databaseUrl : Option Text
  statementTimeoutMs : Nat
  maxConnections : Nat
  maxWorkers : Nat
  retries : Nat
  floatPrecision : Nat
  sampleRows : Nat
  metrics : List MetricKind
  deriving Repr, DecidableEq

/-- Why a text gives no settings. -/
inductive SettingsError
  /-- The text is no TOML, or TOML with other types. -/
  | malformed
  | noWorkers
  | noConnections
  | noTimeout
  | noMetrics
  | repeatedMetric (kind : MetricKind)
  deriving Repr, DecidableEq

namespace SettingsError

/-- What is wrong, for settings that can be read. -/
def reason : SettingsError → String
  | malformed => "not a table of settings"
  | noWorkers => "max_workers must be at least 1"
  | noConnections => "max_connections must be at least 1"
  | noTimeout => "statement_timeout_ms must be positive"
  | noMetrics => "at least one metric must be enabled"
  | repeatedMetric kind => s!"metric '{kind.name}' is listed twice"

def message (e : SettingsError) : String := "invalid settings: " ++ e.reason

end SettingsError

namespace Settings

def defaults : Settings where
  datasetPath := "evaluation/ground_truth.json"
  predictionsPath := none
  outputDir := "runs"
  databaseUrl := none
  statementTimeoutMs := 30000
  maxConnections := 5
  maxWorkers := 1
  retries := 0
  floatPrecision := 10
  sampleRows := 5
  metrics := MetricKind.all

/-- The first kind that is listed again, by the place of the repetition. `seen` holds the kinds so
far. -/
def repeated? (seen : List MetricKind) : List MetricKind → Option MetricKind
  | [] => none
  | k :: ks => if seen.contains k then some k else repeated? (k :: seen) ks

/-- Whether settings make sense. -/
def validate (s : Settings) : Except SettingsError Unit :=
  if s.maxWorkers = 0 then .error .noWorkers
  else if s.maxConnections = 0 then .error .noConnections
  else if s.statementTimeoutMs = 0 then .error .noTimeout
  else if s.metrics.isEmpty then .error .noMetrics
  else match repeated? [] s.metrics with
    | some kind => .error (.repeatedMetric kind)
    | none => .ok ()

def textOf? : Toml → Option Text
  | .string t => some t
  | _ => none

def stringOf? (v : Toml) : Option String := (textOf? v).map String.ofList

/-- A natural number of so many bits. -/
def naturalOf? (bits : Nat) : Toml → Option Nat
  | .integer (.ofNat n) => if fitsBits bits n then some n else none
  | _ => none

/-- Whether a value holds no others. -/
def isHollow : Toml → Bool
  | .array items => items.isEmpty
  | .table _ members => members.isEmpty
  | _ => false

/-- The metric that a table names: by its only member, which holds nothing. -/
def kindOfMembers? : Toml.Members → Option MetricKind
  | [member] => if isHollow member.2 then MetricKind.ofName? member.1 else none
  | _ => none

/-- A metric: its name, or a table that names it. -/
def kindOf? : Toml → Option MetricKind
  | .string t => MetricKind.ofName? (String.ofList t)
  | .table .inline members => kindOfMembers? members
  | _ => none

/-- A list of metrics: an array, or one table with a header for each. -/
def kindsOf? : Toml → Option (List MetricKind)
  | .array items => items.mapM kindOf?
  | .tables items => items.mapM kindOfMembers?
  | _ => none

/-- The setting of that name, or its default. -/
def setting {α : Type} (members : Toml.Members) (name : String) (default : α)
    (read : Toml → Option α) : Option α :=
  match members.lookup name with
  | none => some default
  | some v => read v

/-- The settings that a table holds. -/
def ofMembers? (members : Toml.Members) : Option Settings := do
  let d := defaults
  some {
    datasetPath := ← setting members "dataset_path" d.datasetPath stringOf?
    predictionsPath := ←
      setting members "predictions_path" d.predictionsPath fun v => (stringOf? v).map some
    outputDir := ← setting members "output_dir" d.outputDir stringOf?
    databaseUrl := ← setting members "database_url" d.databaseUrl fun v => (textOf? v).map some
    statementTimeoutMs := ←
      setting members "statement_timeout_ms" d.statementTimeoutMs (naturalOf? 64)
    maxConnections := ← setting members "max_connections" d.maxConnections (naturalOf? 32)
    maxWorkers := ← setting members "max_workers" d.maxWorkers (naturalOf? 64)
    retries := ← setting members "execution_retries" d.retries (naturalOf? 32)
    floatPrecision := ← setting members "float_precision" d.floatPrecision (naturalOf? 32)
    sampleRows := ← setting members "sample_rows" d.sampleRows (naturalOf? 64)
    metrics := ← setting members "metrics" d.metrics kindsOf? }

/-- The settings that a text is written as. -/
def ofText (t : Text) : Except SettingsError Settings :=
  match (Toml.documentOf? t).bind ofMembers? with
  | none => .error .malformed
  | some s => s.validate.map fun _ => s

/-- The connection string to use: the one that is set, else that of the environment. A blank one
stands for none. -/
def resolvedUrl (s : Settings) (environment : Option Text) : Option Text :=
  match s.databaseUrl <|> environment with
  | none => none
  | some url =>
    let url := Text.trim url
    if url.isEmpty then none else some url

/-- Whether a metric runs statements. -/
def needsDatabase (s : Settings) : Bool := s.metrics.any (·.requiresExecution)

def executionOptions (s : Settings) : ExecutionMatch.Options :=
  ⟨s.floatPrecision, s.sampleRows, s.retries⟩

/-- The settings as they are kept with a run, without the connection string. -/
def toJson (s : Settings) : Json :=
  .object [("dataset_path", .string s.datasetPath),
    ("predictions_path", Json.optional .string s.predictionsPath),
    ("output_dir", .string s.outputDir), ("statement_timeout_ms", .nat s.statementTimeoutMs),
    ("max_connections", .nat s.maxConnections), ("max_workers", .nat s.maxWorkers),
    ("execution_retries", .nat s.retries), ("float_precision", .nat s.floatPrecision),
    ("sample_rows", .nat s.sampleRows), ("metrics", .strings (s.metrics.map (·.name)))]

end Settings

end SqlGrader
