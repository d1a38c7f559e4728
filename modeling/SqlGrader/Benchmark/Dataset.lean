import SqlGrader.Benchmark.Question
import SqlGrader.Json.Reader
/-!
# Datasets

A dataset is a list of questions, written as an array or as an object that holds the array under
`questions`. It must hold a question, and each question an identifier of its own and a reference
statement. Of several faults the one that comes first is reported.
-/

namespace SqlGrader

/-- Why a text gives no dataset. -/
inductive DatasetError
  /-- The text is no JSON, or JSON of another form. -/
  | malformed
  | noQuestions
  | blankId
  | repeatedId (id : String)
  | missingReference (id : String)
  deriving Repr, DecidableEq

def DatasetError.message : DatasetError → String
  | .malformed => "json serialization error: not a list of questions"
  | .noQuestions => "invalid dataset: dataset contains no questions"
  | .blankId => "invalid dataset: question with an empty id"
  | .repeatedId id => s!"invalid dataset: duplicate question id '{id}'"
  | .missingReference id => s!"invalid dataset: question '{id}' has no reference query"

namespace Dataset

/-- Checks questions one by one. `seen` holds the identifiers of the questions before them. -/
def checkFrom (seen : List String) : List Question → Except DatasetError Unit
  | [] => .ok ()
  | q :: qs =>
    if Text.isAllBlank q.id.toList then .error .blankId
    else if seen.contains q.id then .error (.repeatedId q.id)
    else if Text.isAllBlank q.reference then .error (.missingReference q.id)
    else checkFrom (q.id :: seen) qs

/-- Whether questions make up a dataset. -/
def validate (questions : List Question) : Except DatasetError Unit :=
  if questions.isEmpty then .error .noQuestions else checkFrom [] questions

/-- The questions that a JSON value lists. -/
def questionsOfJson? : Json → Option (List Question)
  | .array items => items.mapM Question.ofJson?
  | .object members =>
    match Json.fieldOf? members ["questions"] with
    | some (some (.array items)) => items.mapM Question.ofJson?
    | _ => none
  | _ => none

/-- The dataset that a text is written as. -/
def ofText (t : Text) : Except DatasetError (List Question) :=
  match (Json.ofText? t).bind questionsOfJson? with
  | none => .error .malformed
  | some questions => (validate questions).map fun _ => questions

/-- The number of questions of each difficulty. -/
def difficultyCounts (questions : List Question) : Keyed Nat :=
  questions.foldl (fun counts q => Keyed.update q.difficulty 0 (· + 1) counts) []

end Dataset

end SqlGrader
