import SqlGrader.Score.Metric
import SqlGrader.Data.RowComparison
/-!
# Execution match

Both statements are run and their results compared as multisets of rows. The reference is run first,
and the prediction even if the reference fails. A failure of the reference counts before one of the
prediction; both are kept in the details. Floats that have to be rounded cannot be asked for more
places than there can be: then the comparison crashes.
-/

namespace SqlGrader.ExecutionMatch

def metricName : String := "execution_accuracy"

structure Options where
  /-- Places that numbers are rounded to before they are compared. -/
  floatPrecision : Nat
  /-- Rows that are kept of what is missing or extra. -/
  sampleRows : Nat
  /-- How often a statement is run again when the connection fails. -/
  retries : Nat
  deriving Repr, DecidableEq

def defaults : Options := ⟨10, 5, 0⟩

mutual

/-- A cell as the JSON value that it looks like. -/
def cellJson : Cell → Json
  | .null => .null
  | .bool b => .bool b
  | .int n => .int n
  | .decimal t => .text t
  | .text t => .text t
  | .temporal t => .text t
  | .array items => .array (cellsJson items)

def cellsJson : List Cell → List Json
  | [] => []
  | c :: cs => cellJson c :: cellsJson cs

end

def rowsJson (rows : List (List Cell)) : Json := .array (rows.map fun r => .array (cellsJson r))

/-- What a comparison of rows says beyond their numbers. -/
def reasonJson : RowVerdict Float → List (String × Json)
  | .same => []
  | .bothEmpty => [("reason", .string "both_empty")]
  | .differentCount => [("reason", .string "row_count_mismatch")]
  | .differentRows missing extra overlap =>
    [("reason", .string "row_content_mismatch"), ("missing_rows", .nat missing.count),
     ("extra_rows", .nat extra.count), ("missing_sample", rowsJson missing.sample),
     ("extra_sample", rowsJson extra.sample), ("overlap", .float overlap)]

/-- The details of a comparison of rows. -/
def detailsJson (reference predicted : List (List Cell)) (v : RowVerdict Float) :
    List (String × Json) :=
  [("reference_rows", .nat reference.length), ("predicted_rows", .nat predicted.length)] ++
    reasonJson v

/-- Compares the rows of both statements. -/
def compareRows (o : Options) (reference predicted : List Row) : Verdict Float :=
  let r := reference.map (Cell.ofRow o.floatPrecision)
  let p := predicted.map (Cell.ofRow o.floatPrecision)
  let v := Rows.compare o.sampleRows r p
  .scored metricName (Verdict.ofBool v.isSame) v.isSame (detailsJson r p v)

/-- Whether the cells of the rows are to be had: no float among them is asked for too many places.
-/
def areComparable (o : Options) (rows : List Row) : Bool :=
  o.floatPrecision ≤ FixedPlaces.limit || !rows.any Cell.rowTakesPlaces

/-- What comes of the final outcomes of both statements. -/
def judge (o : Options) : (reference predicted : Outcome) → Attempt MetricError (Verdict Float)
  | .error f, .error g =>
    .value (.failed metricName .reference (MetricError.referenceFailed f).message
      [("reference_error", f.toJson), ("predicted_error", g.toJson)])
  | .error f, .ok _ =>
    .value (.failed metricName .reference (MetricError.referenceFailed f).message
      [("reference_error", f.toJson)])
  | .ok _, .error g =>
    .value (.failed metricName .prediction (MetricError.predictionFailed g).message
      [("predicted_error", g.toJson)])
  | .ok reference, .ok predicted =>
    if areComparable o reference && areComparable o predicted then
      .value (compareRows o reference predicted)
    else .crash (some "Formatting argument out of range")

/-- Runs both statements, the reference first. -/
def run {m : Type → Type} [Monad m] (o : Options) (h : Handle m)
    (reference predicted : Text) : m (Attempt MetricError (Verdict Float)) := do
  let r ← h.executeRetrying reference o.retries
  let p ← h.executeRetrying predicted o.retries
  pure (judge o r p)

def metric {m : Type → Type} [Monad m] (o : Options) : Metric m where
  name := metricName
  score c :=
    match c.handle with
    | none => pure (.error (.missingHandle metricName))
    | some h =>
      match Metric.statements c with
      | .error e => pure (.error e)
      | .ok (reference, predicted) => run o h reference predicted

end SqlGrader.ExecutionMatch
