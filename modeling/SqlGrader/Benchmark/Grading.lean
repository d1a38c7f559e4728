import SqlGrader.Benchmark.Pool
import SqlGrader.Benchmark.Predictions
import SqlGrader.Score.Metric
/-!
# Grading

A grader asks for the prediction of a question and applies a suite of metrics to it. Whatever
comes of asking, there is a record: without a prediction the empty statement is graded. A
benchmark is graded by a pool of workers.
-/

namespace SqlGrader

/-- What is needed to grade questions, acting in `m`. -/
structure Grader (m : Type → Type) where
  predictor : Predictor m
  suite : Suite m
  /-- The source of data that statements run on. -/
  handle : Option (Handle m)
  /-- The time since some moment, in nanoseconds. -/
  clock : m Nat

/-- The prediction that an attempt gave, and why there is none. -/
def Predictor.settle : Attempt PredictionError Text → Text × Option String
  | .value t => (t, none)
  | .error e => ([], some e.message)
  | .crash message => ([], some ("predictor panicked: " ++ Attempt.crashText message))

namespace Grader

variable {m : Type → Type} [Monad m]

/-- Grades one question. -/
def grade (g : Grader m) (q : Question) : m (Record Float) := do
  let started ← g.clock
  let attempt ← g.predictor.predict q
  let ended ← g.clock
  let (predicted, predictionError) := Predictor.settle attempt
  let verdicts ← g.suite.evaluate ⟨q.id, q.reference, predicted, g.handle⟩
  pure { question := q, predicted, predictionError, isAnswered := !Text.isAllBlank predicted,
         elapsed := ended - started, verdicts }

/-- Grades the questions with a pool of workers that follow a schedule. -/
def gradeScheduled (g : Grader m) (workers : Nat) (schedule : List Nat)
    (questions : List Question) : m (Pool Float) :=
  (Pool.start workers questions).run g.grade schedule

/-- Grades the questions with at most so many workers. -/
def gradeAll (g : Grader m) (allowed : Nat) (questions : List Question) : m (Evaluation Float) := do
  let workers := Pool.workerCount allowed questions.length
  let pool ← g.gradeScheduled workers (Pool.rounds workers questions.length) questions
  pure ⟨pool.inOrder, pool.tally, workers⟩

end Grader

end SqlGrader
