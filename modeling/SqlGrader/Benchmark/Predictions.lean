import SqlGrader.Benchmark.Question
import SqlGrader.Json.Reader
import SqlGrader.Json.Writer
import SqlGrader.Attempt
/-!
# Recorded predictions

Predictions are recorded under the identifiers of questions: with the questions themselves, or in a
file of their own, as an object from identifiers to statements or as a list of rows. A row may have
any JSON value for its identifier; one that is no string stands for its text on one line. Where a
prediction is null the empty statement is recorded. Of several predictions under one identifier the
last one counts, and one of a file counts before one of a question.
-/

namespace SqlGrader

/-- Why a question gets no prediction. -/
inductive PredictionError
  | missing (id : String)
  | failed (message : String)
  deriving Repr, DecidableEq

def PredictionError.message : PredictionError → String
  | .missing id => s!"no prediction recorded for question '{id}'"
  | .failed message => s!"prediction failed: {message}"

/-- Whoever supplies predictions, acting in `m`. -/
structure Predictor (m : Type → Type) where
  name : String
  predict : Question → m (Attempt PredictionError Text)

/-- Statements under the identifiers of questions. -/
abbrev Predictions := Keyed Text

namespace Predictions

/-- The predictions that come with questions. -/
def ofQuestions (questions : List Question) : Predictions :=
  .ofList (questions.filterMap fun q => q.prediction.map fun t => (q.id, t))

def rowForm : Json.RecordForm where
  names := [["id", "question_id"], ["predicted_sql", "sql", "sql_query"]]
  leastItems := 2

/-- The text that a JSON value stands for as an identifier. -/
def idText : Json → String
  | .string s => s
  | j => j.sorted.compact

/-- The identifier and the statement of a row. -/
def entryOfRow? (j : Json) : Option (String × Text) := do
  match ← rowForm.read? j with
  | [id, prediction] =>
    let id ← id
    let prediction ← Json.orElse none Json.textOrNull? prediction
    some (idText id, prediction.getD [])
  | _ => none

/-- The identifier and the statement of a member of an object. -/
def entryOfMember? (member : String × Json) : Option (String × Text) :=
  (Json.textOrNull? member.2).map fun prediction => (member.1, prediction.getD [])

/-- The entries of a file, in order. -/
def entriesOfJson? : Json → Option (List (String × Text))
  | .object members => members.mapM entryOfMember?
  | .array rows => rows.mapM entryOfRow?
  | _ => none

/-- The predictions that a text is written as. -/
def ofText? (t : Text) : Option Predictions :=
  ((Json.ofText? t).bind entriesOfJson?).map Keyed.ofList

/-- Both sets of predictions; where both have one the newer counts. -/
def merge (older newer : Predictions) : Predictions :=
  newer.foldl (fun done entry => Keyed.insert entry.1 entry.2 done) older

/-- The prediction of a question. -/
def replay (predictions : Predictions) (q : Question) : Except PredictionError Text :=
  match Keyed.get? q.id predictions with
  | some t => .ok t
  | none => .error (.missing q.id)

/-- Supplies what was recorded. -/
def predictor {m : Type → Type} [Monad m] (predictions : Predictions) : Predictor m :=
  ⟨"recorded", fun q => pure (.ofExcept (predictions.replay q))⟩

end Predictions

end SqlGrader
