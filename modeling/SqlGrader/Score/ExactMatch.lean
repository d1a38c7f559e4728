import SqlGrader.Score.Metric
import SqlGrader.Sql.ClauseWords
/-!
# Exact match

Two statements match if they have the same normal form and it is not empty. Where they do not match,
the details say how the two normal forms differ; the score does not depend on them.
-/

namespace SqlGrader.ExactMatch

def metricName : String := "exact_match"

/-- Whether two statements have the same normal form. -/
def isMatch (reference predicted : NormalForm) : Bool :=
  !reference.text.isEmpty && reference.text == predicted.text

/-- The number of characters that two texts have in common at their start. -/
def commonLength : Text → Text → Nat
  | c :: cs, d :: ds => if c = d then commonLength cs ds + 1 else 0
  | _, _ => 0

/-- The characters next to a place: up to ten before it and up to ten from it on. -/
def around (t : Text) (place : Nat) : Text := (t.take (place + 10)).drop (place - 10)

/-- The places at which two lists differ, with what stands there. -/
def differing : (place : Nat) → List Text → List Text → List (Nat × Option Text × Option Text)
  | _, [], [] => []
  | n, a :: as, [] => (n, some a, none) :: differing (n + 1) as []
  | n, [], b :: bs => (n, none, some b) :: differing (n + 1) [] bs
  | n, a :: as, b :: bs =>
    if a = b then differing (n + 1) as bs
    else (n, some a, some b) :: differing (n + 1) as bs

/-- What is looked for in a statement to tell which clauses it has: one whole word or two. -/
def clauseLabels : List (String × List String) :=
  [("SELECT", ["SELECT"]), ("FROM", ["FROM"]), ("WHERE", ["WHERE"]), ("GROUP BY", ["GROUP", "BY"]),
   ("ORDER BY", ["ORDER", "BY"]), ("HAVING", ["HAVING"]), ("LIMIT", ["LIMIT"])]

/-- Whether the runs start with the words, white space between them. -/
def startsWith : List String → List Run → Bool
  | [], _ => true
  | [w], r :: _ => r.isWordText w.toList
  | w :: ws, r :: gap :: rs => r.isWordText w.toList && gap.isBlankGap && startsWith ws rs
  | _, _ => false

/-- Whether the words stand somewhere in the runs. -/
def mentions (ws : List String) : List Run → Bool
  | [] => false
  | r :: rs => startsWith ws (r :: rs) || mentions ws rs

/-- The labels of the clauses that one text mentions and the other does not. -/
def onlyIn (rs others : List Run) : List String :=
  (clauseLabels.filter fun l => mentions l.2 rs && !mentions l.2 others).map (·.1)

def aggregates : List String := ["COUNT", "SUM", "AVG", "MIN", "MAX"]

/-- Whether a parenthesis opens after white space. -/
def opensCall (t : Text) : Bool := (Text.trimStart t).head? == some '('

/-- The number of calls of a function. -/
def callCount (function : String) : List Run → Nat
  | r :: gap :: rs =>
    let here := r.isWord && Text.upper r.text == function.toList && opensCall gap.text
    callCount function (gap :: rs) + (if here then 1 else 0)
  | _ => 0

/-- The functions that are called a different number of times. -/
def callDifferences (reference predicted : List Run) : List (String × Nat × Nat) :=
  (aggregates.map fun f => (f, callCount f reference, callCount f predicted)).filter
    fun d => d.2.1 != d.2.2

/-- A member that holds a list, left out if the list is empty. -/
def nonEmpty (name : String) (js : List Json) : List (String × Json) :=
  if js.isEmpty then [] else [(name, .array js)]

/-- How two normal forms differ. -/
def differences (reference predicted : Text) : Json :=
  let place := commonLength reference predicted
  let referenceRuns := Run.ofText reference
  let predictedRuns := Run.ofText predicted
  let wordDifferences := (differing 0 (Text.words reference) (Text.words predicted)).take 5
  let joins := mentions ["JOIN"] referenceRuns
  .object ([
    ("length_difference", .int ((predicted.length : Int) - reference.length)),
    ("first_difference", .object [("offset", .nat place),
      ("reference_context", .text (around reference place)),
      ("predicted_context", .text (around predicted place))])] ++
    nonEmpty "differing_words" (wordDifferences.map fun d => .object [("position", .nat d.1),
      ("reference", Json.optional Json.text d.2.1),
      ("predicted", Json.optional Json.text d.2.2)]) ++
    nonEmpty "missing_clauses" ((onlyIn referenceRuns predictedRuns).map .string) ++
    nonEmpty "extra_clauses" ((onlyIn predictedRuns referenceRuns).map .string) ++
    nonEmpty "aggregate_mismatches" ((callDifferences referenceRuns predictedRuns).map fun d =>
      .object [("function", .string d.1), ("reference", .nat d.2.1), ("predicted", .nat d.2.2)]) ++
    (if joins != mentions ["JOIN"] predictedRuns then
      [("join", .string (if joins then "missing" else "unexpected"))] else []))

/-- Compares two statements by their normal forms. -/
def compare (reference predicted : Text) : Verdict Float :=
  let r := NormalForm.ofStatement reference
  let p := NormalForm.ofStatement predicted
  let same := isMatch r p
  .scored metricName (Verdict.ofBool same) same ([
    ("normalized_reference", .text r.text), ("normalized_predicted", .text p.text),
    ("normalization", .object [("reference", .string r.reading.name),
      ("predicted", .string p.reading.name)])] ++
    if same then [] else [("differences", differences r.text p.text)])

def metric {m : Type → Type} [Monad m] : Metric m := .ofTexts metricName compare

end SqlGrader.ExactMatch
