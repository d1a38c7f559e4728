import SqlGrader.Score.Metric
import SqlGrader.Score.Similarity
import SqlGrader.Sql.Statement
/-!
# Component match

Two statements are compared clause by clause. A clause that both lack agrees, one that only one of
them has does not; else the fragments of the clause are compared as sets, the items of the
projection one by one, and limits by their first number. The total is the mean of the clause
scores by weight.

Scores are computed in any scale, so that the same rules give exact scores in the rationals.
-/

namespace SqlGrader.ComponentMatch

variable {α : Type} [Scale α]

def metricName : String := "component_matching"

/-- How much a clause weighs, in parts of `totalWeight`. -/
def weight : ClauseKind → Nat
  | .projection => 2500
  | .source => 2000
  | .filter => 2000
  | .joins => 1500
  | .grouping => 1000
  | .ordering => 500
  | .having => 300
  | .limit => 200

/-- What the weights sum up to. -/
def totalWeight : Nat := 10000

/-- The clauses in the order in which their scores are summed up. -/
def order : List ClauseKind :=
  [.projection, .source, .filter, .joins, .grouping, .ordering, .having, .limit]

/-- What a projection item is credited with. -/
inductive Credit
  | none
  /-- The expressions agree, but only one of the two has an alias. -/
  | expressionOnly
  | full
  deriving Repr, DecidableEq

namespace Credit

/-- The credit of a pair of items. -/
def ofPair (reference predicted : ProjectionItem) : Credit :=
  if reference.expression ≠ predicted.expression then none
  else if reference.aliasName.isSome != predicted.aliasName.isSome then expressionOnly
  else full

def value : Credit → α
  | none => Scale.ofNat 0
  | expressionOnly => Scale.ratio 7 10
  | full => Scale.ofNat 1

/-- Pairs each reference item with the first predicted item that is left and credits it most. -/
def pairing : List ProjectionItem → List ProjectionItem → List Credit
  | [], _ => []
  | r :: rs, ps =>
    if ps.any (ofPair r · == full) then full :: pairing rs (ps.eraseP (ofPair r · == full))
    else if ps.any (ofPair r · == expressionOnly) then
      expressionOnly :: pairing rs (ps.eraseP (ofPair r · == expressionOnly))
    else none :: pairing rs ps

end Credit

/-- The mean of credits; one if there are none. Full credits have the mean one in every scale, as
they have by their sum and their count where counts are exact (`Credit.mean_eq_quotient`). -/
def Credit.mean (credits : List Credit) : α :=
  if credits.all (· == .full) then Scale.ofNat 1
  else Scale.sum (credits.map Credit.value) / Scale.ofNat credits.length

/-- The similarity of two projections: as sets if they differ in length, else item by item. -/
def projectionScore (reference predicted : List ProjectionItem) : α :=
  if reference.length ≠ predicted.length then
    Similarity.jaccard (reference.map (·.token)) (predicted.map (·.token))
  else Credit.mean (Credit.pairing reference predicted)

/-- The first number of a limit. -/
def firstNumber? (t : Text) : Option Text :=
  match tokenize t with
  | .ok ts => (ts.find? (·.kind == .number)).map (·.text)
  | .error _ => none

/-- Whether two limits have the same first number, or the same text if neither has a number. -/
def sameLimit (reference predicted : Text) : Bool :=
  match firstNumber? reference, firstNumber? predicted with
  | some n, some m => n == m
  | none, none => Text.equalsIgnoringCase reference predicted
  | _, _ => false

/-- The similarity of a clause that both statements have. -/
def presentScore (kind : ClauseKind) (r p : Statement) : α :=
  match kind with
  | .projection => projectionScore r.projection p.projection
  | .source => Similarity.jaccard r.tables p.tables
  | .joins => Similarity.jaccard r.joins p.joins
  | .filter =>
    Similarity.jaccard (r.conditions false r.clauses.filter) (p.conditions false p.clauses.filter)
  | .having =>
    Similarity.jaccard (r.conditions true r.clauses.having) (p.conditions true p.clauses.having)
  | .grouping => Similarity.jaccard (r.items r.clauses.grouping) (p.items p.clauses.grouping)
  | .ordering => Similarity.jaccard r.ordering p.ordering
  | .limit => Scale.ofNat (if sameLimit r.clauses.limit p.clauses.limit then 1 else 0)

/-- The similarity of a clause of two statements. -/
def clauseScore (kind : ClauseKind) (r p : Statement) : α :=
  match r.clauses.isPresent kind, p.clauses.isPresent kind with
  | false, false => Scale.ofNat 1
  | true, true => presentScore kind r p
  | _, _ => Scale.ofNat 0

/-- The mean of the clause scores by weight. -/
def totalScore (r p : Statement) : α :=
  Scale.sum (order.map fun k => Scale.ofNat (weight k) * clauseScore k r p) /
    Scale.ofNat totalWeight

/-- The details of one clause. -/
def componentJson (r p : Statement) (kind : ClauseKind) : String × Json :=
  (kind.name, .object [("score", .float (clauseScore kind r p)),
    ("weight", .float (Scale.ratio (weight kind) totalWeight)),
    ("reference", .text (r.clauses.text kind)), ("predicted", .text (p.clauses.text kind))])

/-- Compares two statements clause by clause. A total that reaches the threshold is correct. -/
def compare (threshold : Float) (reference predicted : Text) : Verdict Float :=
  let r := Statement.ofText reference
  let p := Statement.ofText predicted
  let total : Float := totalScore r p
  .scored metricName total (Scale.reaches total threshold) [
    ("components", .object (order.map (componentJson r p))), ("threshold", .float threshold),
    ("extraction", .object [("reference", .string r.clauses.reading.name),
      ("predicted", .string p.clauses.reading.name)])]

/-- The total from which on a prediction counts as correct, if no other one is asked for. -/
def defaultThreshold {β : Type} [Scale β] : β := Scale.ratio 8 10

def metric {m : Type → Type} [Monad m] (threshold : Float := defaultThreshold) :
    Metric m :=
  .ofTexts metricName (compare threshold)

end SqlGrader.ComponentMatch
