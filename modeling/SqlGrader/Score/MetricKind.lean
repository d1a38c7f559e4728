import SqlGrader.Score.ExactMatch
import SqlGrader.Score.ComponentMatch
import SqlGrader.Score.ExecutionMatch
/-!
# The metrics at hand

The three metrics by name. A name is read with hyphens for underscores, in any letter case and with
white space around it.
-/

namespace SqlGrader

inductive MetricKind
  | exactMatch
  | componentMatch
  | executionMatch
  deriving Repr, DecidableEq

namespace MetricKind

def all : List MetricKind := [exactMatch, componentMatch, executionMatch]

def name : MetricKind → String
  | exactMatch => ExactMatch.metricName
  | componentMatch => ComponentMatch.metricName
  | executionMatch => ExecutionMatch.metricName

/-- The metric of exactly that name. -/
def ofName? (s : String) : Option MetricKind := all.find? (·.name == s)

/-- The metric that a user means. -/
def ofUserText (s : String) : Except MetricError MetricKind :=
  let wanted := (Text.lower (Text.trim s.toList)).map fun c => if c = '-' then '_' else c
  match ofName? (String.ofList wanted) with
  | some k => .ok k
  | none => .error (.unknownMetric s)

/-- Whether the metric runs statements. -/
def requiresExecution (k : MetricKind) : Bool := k == executionMatch

def metric {m : Type → Type} [Monad m] (o : ExecutionMatch.Options) :
    MetricKind → Metric m
  | exactMatch => ExactMatch.metric
  | componentMatch => ComponentMatch.metric
  | executionMatch => ExecutionMatch.metric o

/-- The metrics of these kinds, in order. -/
def suite {m : Type → Type} [Monad m] (kinds : List MetricKind)
    (o : ExecutionMatch.Options) : Suite m :=
  kinds.map (metric o)

end MetricKind

end SqlGrader
