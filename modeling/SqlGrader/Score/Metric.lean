import SqlGrader.Score.Verdict
/-!
# Metrics

A metric scores one prediction against its reference, perhaps by asking a source of data. A suite
applies several metrics to the same prediction. Nothing that a metric does keeps a suite from
giving a verdict under the name of each of its metrics; of several metrics of one name the last
one counts.
-/

namespace SqlGrader

/-- What a metric sees of one question. -/
structure Context (m : Type → Type) where
  questionId : String
  reference : Text
  predicted : Text
  handle : Option (Handle m)

/-- A way to score a prediction, which may act on a source of data. -/
structure Metric (m : Type → Type) where
  name : String
  score : Context m → m (Attempt MetricError (Verdict Float))

namespace Metric

variable {m : Type → Type}

/-- Both statements, if neither of them is blank. -/
def statements (c : Context m) : Except MetricError (Text × Text) :=
  if Text.isAllBlank c.reference then .error .emptyReference
  else if Text.isAllBlank c.predicted then .error .emptyPrediction
  else .ok (c.reference, c.predicted)

variable [Monad m]

/-- A metric that looks at the two texts only. -/
def ofTexts (name : String) (score : Text → Text → Verdict Float) : Metric m :=
  ⟨name, fun c => pure (Attempt.ofExcept ((statements c).map fun s => score s.1 s.2))⟩

/-- The verdict of the metric, whatever comes of scoring. -/
def evaluate (metric : Metric m) (c : Context m) : m (Verdict Float) :=
  Verdict.ofAttempt metric.name <$> metric.score c

end Metric

/-- Metrics that are applied together, in order. -/
abbrev Suite (m : Type → Type) := List (Metric m)

namespace Suite

variable {m : Type → Type}

def names (suite : Suite m) : List String := suite.map (·.name)

variable [Monad m]

/-- The verdicts of the metrics in order, each with the metric's name. -/
def verdicts (suite : Suite m) (c : Context m) : m (List (String × Verdict Float)) :=
  suite.mapM fun metric => (fun v => (metric.name, v)) <$> metric.evaluate c

/-- The verdicts under the names of the metrics. -/
def evaluate (suite : Suite m) (c : Context m) : m (Keyed (Verdict Float)) :=
  Keyed.ofList <$> verdicts suite c

end Suite

end SqlGrader
