import SqlGrader.Text.Basic
import SqlGrader.Number.Decimal
import SqlGrader.Number.Bounds
import SqlGrader.Json.Record
/-!
# Questions

One question of a benchmark: what is asked, the statement that answers it, how difficult it is,
and perhaps a prediction that was recorded with it. Identifiers are texts; one that is written as
a whole number of 64 bits stands for its decimal digits.
-/

namespace SqlGrader

structure Question where
  id : String
  /-- What is asked, in words. -/
  asked : String
  /-- The statement that answers the question. -/
  reference : Text
  difficulty : String
  /-- A prediction that comes with the question. -/
  prediction : Option Text
  deriving Repr, DecidableEq

namespace Question

/-- The difficulty of questions that do not say one. -/
def unknownDifficulty : String := "unknown"

def form : Json.RecordForm where
  names := [["id", "question_id"], ["question"], ["reference_sql", "query", "ground_truth_sql"],
    ["difficulty"], ["predicted_sql"]]
  leastItems := 3

/-- The text of an identifier. -/
def idOfJson? : Json → Option String
  | .string s => some s
  | .int n => if isInt64 n then some (String.ofList (Decimal.intText n)) else none
  | _ => none

def ofJson? (j : Json) : Option Question := do
  match ← form.read? j with
  | [id, asked, reference, difficulty, prediction] =>
    let id ← Json.required idOfJson? id
    let asked ← Json.orElse "" Json.string? asked
    let reference ← Json.required Json.text? reference
    let difficulty ← Json.orElse unknownDifficulty Json.string? difficulty
    let prediction ← Json.orElse none Json.textOrNull? prediction
    some { id, asked, reference, difficulty, prediction }
  | _ => none

def toJson (q : Question) : Json :=
  .object ([("id", .string q.id), ("question", .string q.asked),
      ("reference_sql", .text q.reference), ("difficulty", .string q.difficulty)] ++
    Json.memberIfSome "predicted_sql" .text q.prediction)

end Question

end SqlGrader
