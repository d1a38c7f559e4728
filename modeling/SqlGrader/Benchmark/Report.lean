import SqlGrader.Benchmark.Summary
import SqlGrader.Number.FixedPlaces
/-!
# Reports

A report shows a summary to a reader: the totals of the run, a table of the metrics and one of the
difficulties, and, where there are any, a list of the reference statements that fail and one of the
questions without an answer. The lists are cut after a number of entries.
-/

namespace SqlGrader.Report

/-- A number with that many places. -/
def fixed (places : Nat) (x : Float) : String := String.ofList (FixedPlaces.text places x)

/-- A part of a whole in percent, with one place. -/
def percent (x : Float) : String := fixed 1 (x * 100.0) ++ "%"

/-- A line of a table. -/
def tableRow (cells : List String) : String := "| " ++ " | ".intercalate cells ++ " |"

/-- The first two lines of a table. -/
def tableHead (titles : List String) : List String :=
  [tableRow titles, tableRow (titles.map fun _ => "---")]

def runLines (s : Summary Float) (workers : Nat) : List String :=
  ["# Text-to-SQL Evaluation Report", "", "## Run summary", s!"- questions: {s.questions}",
    s!"- agent_success: {s.tally.answered}/{s.questions} ({percent s.answeredRate})",
    s!"- prediction_time: {fixed 1 s.totalMillis} ms total, {fixed 1 s.averageMillis} ms avg",
    s!"- workers: {workers}", ""]

def metricRow (name : String) (s : MetricSummary Float) : String :=
  tableRow [name, fixed 3 s.average, percent s.accuracy, s!"{s.perfect}/{s.total}", s!"{s.total}",
    s!"{s.referenceFailures}"]

def metricLines (metrics : Keyed (MetricSummary Float)) : List String :=
  "## Metrics" ::
    tableHead ["metric", "avg_score", "accuracy", "perfect", "evaluated", "reference_failures"] ++
    metrics.map (fun p => metricRow p.1 p.2) ++ [""]

/-- The lines of one difficulty: one for each metric, or one alone if there is none. -/
def difficultyRows (name : String) (s : DifficultySummary Float) : List String :=
  let row (cells : List String) : String :=
    tableRow ([name, s!"{s.total}", s!"{s.answered}"] ++ cells)
  if s.metrics.isEmpty then [row ["-", "-", "-"]]
  else s.metrics.map fun p => row [p.1, fixed 3 p.2.average, s!"{p.2.correct}/{p.2.total}"]

def difficultyLines (difficulties : Keyed (DifficultySummary Float)) : List String :=
  "## Difficulty breakdown" ::
    tableHead ["difficulty", "questions", "agent_success", "metric", "avg_score", "correct"] ++
    difficulties.flatMap (fun p => difficultyRows p.1 p.2) ++ [""]

/-- An entry of a list about a question. -/
def item (r : Record Float) (reason : String) : String := s!"- {r.question.id}: {reason}"

/-- The records whose reference statement fails, each with the first verdict that says so. -/
def brokenReferences (records : List (Record Float)) : List (Record Float × Verdict Float) :=
  records.filterMap fun r => r.referenceFailure?.map fun v => (r, v)

def brokenReferenceLines (records : List (Record Float)) (limit : Nat) : List String :=
  let broken := brokenReferences records
  if broken.isEmpty then []
  else
    "## Broken reference queries" ::
      (broken.take limit).map (fun b => item b.1 (b.2.error.getD "unknown error")) ++ [""]

def unansweredLines (records : List (Record Float)) (limit : Nat) : List String :=
  let unanswered := records.filter fun r => !r.isAnswered
  if unanswered.isEmpty then []
  else
    "## Missing predictions" ::
      (unanswered.take limit).map (fun r => item r (r.predictionError.getD "empty statement")) ++
      (if limit < unanswered.length then [s!"- ... {unanswered.length - limit} more"] else []) ++
      [""]

/-- The lines of the report. -/
def lines (s : Summary Float) (e : Evaluation Float) (limit : Nat) : List String :=
  runLines s e.workers ++ metricLines s.metrics ++ difficultyLines s.difficulties ++
    brokenReferenceLines e.records limit ++ unansweredLines e.records limit

/-- The report on an evaluation, with lists of at most `limit` entries. -/
def render (s : Summary Float) (e : Evaluation Float) (limit : Nat) : String :=
  "\n".intercalate (lines s e limit)

end SqlGrader.Report
