import SqlGrader.Score.ComponentMatch
/-!
# What the verdict of a component match says

Two statements that are not blank are compared without an error. The verdict has the mean of their
clause scores, held within zero and one, and its details name the score of every clause.
-/

namespace SqlGrader.ComponentMatch

/-- The score of a clause as it stands in the details of a verdict. -/
def reportedScore? (v : Verdict Float) (kind : ClauseKind) : Option Float :=
  match ((v.details.member? "components").bind (·.member? kind.name)).bind (·.member? "score") with
  | some (.float x) => some x
  | _ => none

/-- What a verdict says about two statements that were compared. -/
structure Reports (threshold : Float) (r p : Statement) (v : Verdict Float) : Prop where
  error : v.error = none
  score : v.score = Verdict.clamp (totalScore r p)
  isCorrect : v.isCorrect = Scale.reaches (totalScore r p) threshold
  clause (kind : ClauseKind) : reportedScore? v kind = some (clauseScore kind r p)

/-- The details have a member for every clause. -/
theorem reportedScore?_compare (threshold : Float) (reference predicted : Text)
    (kind : ClauseKind) : reportedScore? (compare threshold reference predicted) kind =
      some (clauseScore kind (Statement.ofText reference) (Statement.ofText predicted)) := by
  cases kind <;> rfl

theorem reports_compare (threshold : Float) (reference predicted : Text) :
    Reports threshold (Statement.ofText reference) (Statement.ofText predicted)
      (compare threshold reference predicted) :=
  ⟨rfl, rfl, rfl, reportedScore?_compare threshold reference predicted⟩

/-- A prediction is compared with a reference that is not blank, unless it is blank itself. -/
theorem score_of_stated {m : Type → Type} [Monad m] (threshold : Float) (c : Context m)
    (stated : Text.isAllBlank c.reference = false) :
    (metric threshold).score c = pure (if Text.isAllBlank c.predicted then .error .emptyPrediction
      else .value (compare threshold c.reference c.predicted)) := by
  simp only [metric, Metric.ofTexts, Metric.statements, stated, Bool.false_eq_true, if_false]
  split <;> rfl

/-- Statements that are not blank have a verdict, and it reports on them. -/
theorem score_reports {m : Type → Type} [Monad m] (threshold : Float) (c : Context m)
    (stated : Text.isAllBlank c.reference = false)
    (answered : Text.isAllBlank c.predicted = false) :
    ∃ v, (metric threshold).score c = pure (.value v) ∧
      Reports threshold (Statement.ofText c.reference) (Statement.ofText c.predicted) v := by
  refine ⟨_, ?_, reports_compare threshold c.reference c.predicted⟩
  rw [score_of_stated threshold c stated, answered]
  rfl

end SqlGrader.ComponentMatch
