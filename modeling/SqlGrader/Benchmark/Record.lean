import SqlGrader.Benchmark.Question
import SqlGrader.Score.Verdict
/-!
# Records

What is known of a question after it was put: the prediction, or why there is none, whether that
counts as an answer, how long it took, and the verdicts on it.
-/

namespace SqlGrader

/-- A span of time in nanoseconds. -/
abbrev Elapsed := Nat

/-- How many nanoseconds a second has. -/
def Elapsed.perSecond : Nat := 1000000000

/-- A span of time in milliseconds: the whole seconds and the part of a second are added up first.
-/
def Elapsed.millis {α : Type} [Scale α] (t : Elapsed) : α :=
  (Scale.ofNat (t / perSecond) + Scale.ratio (t % perSecond) perSecond) * Scale.ofNat 1000

/-- The record of a question, with scores in the scale `α`. -/
structure Record (α : Type) where
  question : Question
  /-- The predicted statement; empty if there is none. -/
  predicted : Text
  predictionError : Option String
  /-- Whether the question counts as answered, by a statement that is not blank unless it is said
  otherwise. -/
  isAnswered : Bool := !Text.isAllBlank predicted
  elapsed : Elapsed
  /-- The verdicts by the names of the metrics. -/
  verdicts : Keyed (Verdict α)

namespace Record

variable {α : Type}

/-- The first verdict that puts the blame on the reference statement. -/
def referenceFailure? (r : Record α) : Option (Verdict α) :=
  (r.verdicts.find? (·.2.isReferenceFailure)).map (·.2)

/-- A verdict as it is kept in a record. -/
def verdictJson (v : Verdict Float) : Json :=
  .object ([("score", .float v.score), ("is_correct", .bool v.isCorrect),
      ("error", Json.optional .string v.error)] ++
    Json.memberIfSome "error_origin" (fun o => .string o.name) v.origin ++
    [("details", v.details)])

def toJson (r : Record Float) : Json :=
  .object ([("question_id", .string r.question.id), ("difficulty", .string r.question.difficulty),
      ("question", .string r.question.asked), ("reference_sql", .text r.question.reference),
      ("predicted_sql", .text r.predicted)] ++
    Json.memberIfSome "prediction_error" .string r.predictionError ++
    [("agent_success", .bool r.isAnswered), ("prediction_ms", .float r.elapsed.millis),
      ("metrics", .object (r.verdicts.map fun p => (p.1, verdictJson p.2)))])

end Record

/-- How many questions were answered, and how long all predictions took together. -/
structure Tally where
  answered : Nat
  unanswered : Nat
  elapsed : Elapsed
  deriving Repr, DecidableEq

namespace Tally

def zero : Tally := ⟨0, 0, 0⟩

/-- Counts a record. -/
def add {α : Type} (t : Tally) (r : Record α) : Tally :=
  if r.isAnswered then { t with answered := t.answered + 1, elapsed := t.elapsed + r.elapsed }
  else { t with unanswered := t.unanswered + 1, elapsed := t.elapsed + r.elapsed }

end Tally

/-- The records of a benchmark, in the order of its questions. -/
structure Evaluation (α : Type) where
  records : List (Record α)
  tally : Tally
  /-- How many workers shared the questions. -/
  workers : Nat

end SqlGrader
