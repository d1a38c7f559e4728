import SqlGrader.Score.Scale
import SqlGrader.Attempt
import SqlGrader.Database.Handle
/-!
# Verdicts

What a metric says about one prediction: a score from zero to one, whether the prediction counts
as correct, and details for a reader. A metric that cannot score says why, and whose fault it is:
that of the reference statement, of the prediction, or of the metric itself.
-/

namespace SqlGrader

/-- Where the cause of an error lies. -/
inductive Origin
  | reference
  | prediction
  | metric
  deriving Repr, DecidableEq

def Origin.name : Origin → String
  | .reference => "reference"
  | .prediction => "prediction"
  | .metric => "metric"

/-- Why a metric gives no score. -/
inductive MetricError
  | emptyReference
  | emptyPrediction
  | missingHandle (metric : String)
  | referenceFailed (f : Failure)
  | predictionFailed (f : Failure)
  /-- Details cannot be written as JSON. -/
  | unwritable (message : String)
  | unknownMetric (name : String)
  deriving Repr, DecidableEq

namespace MetricError

def message : MetricError → String
  | emptyReference => "reference SQL is empty"
  | emptyPrediction => "predicted SQL is empty"
  | missingHandle metric => s!"metric '{metric}' requires an execution handle"
  | referenceFailed f => s!"reference query failed: {f.text}"
  | predictionFailed f => s!"predicted query failed: {f.text}"
  | unwritable message => s!"json error: {message}"
  | unknownMetric name => s!"unknown metric '{name}'"

def origin : MetricError → Origin
  | emptyReference => .reference
  | referenceFailed _ => .reference
  | emptyPrediction => .prediction
  | predictionFailed _ => .prediction
  | missingHandle _ => .metric
  | unwritable _ => .metric
  | unknownMetric _ => .metric

end MetricError

/-- The result of a metric, with scores in the scale `α`. -/
structure Verdict (α : Type) where
  metric : String
  score : α
  isCorrect : Bool
  details : Json
  error : Option String
  origin : Option Origin

namespace Verdict

variable {α : Type} [Scale α]

/-- The score within zero and one. What is no number is zero. -/
def clamp (x : α) : α :=
  if Scale.reaches x (Scale.ofNat 0) then
    if Scale.reaches (Scale.ofNat 1) x then x else Scale.ofNat 1
  else Scale.ofNat 0

/-- A comparison that came to an end. -/
def scored (metric : String) (score : α) (isCorrect : Bool) (details : List (String × Json)) :
    Verdict α :=
  ⟨metric, clamp score, isCorrect, .object details, none, none⟩

/-- The score zero because of an error. -/
def failed (metric : String) (origin : Origin) (message : String) (details : List (String × Json)) :
    Verdict α :=
  ⟨metric, Scale.ofNat 0, false, .object details, some message, some origin⟩

omit [Scale α] in
/-- Whether the reference statement is to blame for the score. -/
def isReferenceFailure (v : Verdict α) : Bool := v.origin == some .reference

/-- The verdict on an attempt to score. -/
def ofAttempt (metric : String) : Attempt MetricError (Verdict α) → Verdict α
  | .value v => v
  | .error e => failed metric e.origin e.message []
  | .crash message => failed metric .metric ("metric panicked: " ++ Attempt.crashText message) []

/-- A yes or no as a score. -/
def ofBool (b : Bool) : α := Scale.ofNat (if b then 1 else 0)

def toJson (v : Verdict Float) : Json :=
  .object ([("metric_name", .string v.metric), ("score", .float v.score),
      ("is_correct", .bool v.isCorrect), ("details", v.details)] ++
    Json.memberIfSome "error_message" .string v.error ++
    Json.memberIfSome "error_origin" (fun o => .string o.name) v.origin)

end Verdict

end SqlGrader
