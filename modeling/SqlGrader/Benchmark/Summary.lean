import SqlGrader.Benchmark.Record
/-!
# Summaries

The records of an evaluation are summed up by metric, overall and for each difficulty. Only answered
questions count towards metrics. Metrics that are asked for have a summary even if no record has a
verdict of theirs. Sums are made in any scale, so that the same rules give exact averages in the
rationals.
-/

namespace SqlGrader

/-- A quotient that is zero where the denominator is. -/
def Scale.mean {α : Type} [Scale α] (sum : α) (count : Nat) : α :=
  if count = 0 then Scale.ofNat 0 else sum / Scale.ofNat count

/-- What the verdicts of one metric sum up to. -/
structure MetricSummary (α : Type) where
  sum : α
  /-- How many verdicts there are. -/
  total : Nat
  correct : Nat
  /-- How many reach the score one. -/
  perfect : Nat
  /-- How many put the blame on the reference statement. -/
  referenceFailures : Nat

namespace MetricSummary

variable {α : Type} [Scale α]

def zero : MetricSummary α := ⟨Scale.ofNat 0, 0, 0, 0, 0⟩

/-- One more if the condition holds. -/
def countIf (b : Bool) (n : Nat) : Nat := if b then n + 1 else n

/-- Counts a verdict. -/
def add (s : MetricSummary α) (v : Verdict α) : MetricSummary α where
  sum := s.sum + v.score
  total := s.total + 1
  correct := countIf v.isCorrect s.correct
  perfect := countIf (Scale.reaches v.score (Scale.ofNat 1)) s.perfect
  referenceFailures := countIf v.isReferenceFailure s.referenceFailures

def average (s : MetricSummary α) : α := Scale.mean s.sum s.total

/-- The part of the verdicts that are correct. -/
def accuracy (s : MetricSummary α) : α := Scale.mean (Scale.ofNat s.correct) s.total

/-- Counts every verdict of a record under its metric. -/
def addAll (summaries : Keyed (MetricSummary α)) (r : Record α) : Keyed (MetricSummary α) :=
  r.verdicts.foldl (fun done p => Keyed.update p.1 zero (·.add p.2) done) summaries

def toJson (s : MetricSummary Float) : Json :=
  .object [("average_score", .float s.average), ("accuracy", .float s.accuracy),
    ("perfect_matches", .nat s.perfect), ("total_evaluated", .nat s.total),
    ("reference_failures", .nat s.referenceFailures)]

end MetricSummary

/-- What the records of one difficulty sum up to. -/
structure DifficultySummary (α : Type) where
  total : Nat
  answered : Nat
  metrics : Keyed (MetricSummary α)

namespace DifficultySummary

variable {α : Type}

def zero : DifficultySummary α := ⟨0, 0, []⟩

variable [Scale α]

/-- Counts a record. -/
def add (s : DifficultySummary α) (r : Record α) : DifficultySummary α :=
  if r.isAnswered then ⟨s.total + 1, s.answered + 1, MetricSummary.addAll s.metrics r⟩
  else { s with total := s.total + 1 }

/-- What is shown of a metric within one difficulty. -/
def metricJson (s : MetricSummary Float) : Json :=
  .object [("correct", .nat s.correct), ("total", .nat s.total),
    ("average_score", .float s.average)]

def toJson (s : DifficultySummary Float) : Json :=
  .object [("total", .nat s.total), ("agent_success", .nat s.answered),
    ("metrics", .object (s.metrics.map fun p => (p.1, metricJson p.2)))]

end DifficultySummary

/-- What an evaluation sums up to. -/
structure Summary (α : Type) where
  questions : Nat
  tally : Tally
  metrics : Keyed (MetricSummary α)
  difficulties : Keyed (DifficultySummary α)

namespace Summary

variable {α : Type} [Scale α]

/-- The summaries of the named metrics before any record. -/
def noMetrics (names : List String) : Keyed (MetricSummary α) :=
  .ofList (names.map fun name => (name, MetricSummary.zero))

/-- The summaries of the metrics over the answered questions. -/
def metricsOf (names : List String) (records : List (Record α)) : Keyed (MetricSummary α) :=
  (records.filter (·.isAnswered)).foldl MetricSummary.addAll (noMetrics names)

/-- The summaries of the difficulties. -/
def difficultiesOf (records : List (Record α)) : Keyed (DifficultySummary α) :=
  records.foldl (fun done r => Keyed.update r.question.difficulty .zero (·.add r) done) []

/-- Sums up an evaluation in which the named metrics were asked for. -/
def ofEvaluation (e : Evaluation α) (names : List String) : Summary α where
  questions := e.records.length
  tally := e.tally
  metrics := metricsOf names e.records
  difficulties := difficultiesOf e.records

def answeredRate (s : Summary α) : α := Scale.mean (Scale.ofNat s.tally.answered) s.questions

def unansweredRate (s : Summary α) : α := Scale.mean (Scale.ofNat s.tally.unanswered) s.questions

/-- The time that all predictions took, in milliseconds. -/
def totalMillis (s : Summary α) : α := s.tally.elapsed.millis

def averageMillis (s : Summary α) : α := Scale.mean s.totalMillis s.questions

def runJson (s : Summary Float) : Json :=
  .object [("total_questions", .nat s.questions), ("agent_success_count", .nat s.tally.answered),
    ("agent_failure_count", .nat s.tally.unanswered), ("agent_success_rate", .float s.answeredRate),
    ("agent_failure_rate", .float s.unansweredRate), ("total_prediction_ms", .float s.totalMillis),
    ("avg_prediction_ms", .float s.averageMillis)]

def metricsJson (s : Summary Float) : Json := .object (s.metrics.map fun p => (p.1, p.2.toJson))

def difficultiesJson (s : Summary Float) : Json :=
  .object (s.difficulties.map fun p => (p.1, p.2.toJson))

/-- The three parts of a summary, which also stand in the record of a run. -/
def members (s : Summary Float) : List (String × Json) :=
  [("summary", runJson s), ("metrics", metricsJson s), ("difficulty_breakdown", difficultiesJson s)]

end Summary

end SqlGrader
