import Mathlib.Data.Multiset.Defs
import SqlGrader.Proofs.Data.RowComparison
import SqlGrader.Proofs.Data.WrittenNumber
import SqlGrader.Proofs.Database.Retries
import SqlGrader.Score.ExecutionMatch
/-!
# What the verdict of an execution match says

Both statements are run, the reference first, whatever comes of it. The final
outcomes decide the verdict: a failure of the reference counts before one of the
prediction, and rows are compared as multisets of cells.
-/

namespace SqlGrader

/-- The rows of one result are those of another one, each equally often. -/
theorem Rows.isSame_compare {α : Type} [Scale α] (limit : Nat)
    (reference predicted : List (List Cell)) :
    (compare limit reference predicted : RowVerdict α).isSame ↔
      (reference : Multiset (List Cell)) = predicted := by
  rw [Multiset.coe_eq_coe]
  exact isSame_compare_iff limit reference predicted

namespace ExecutionMatch

/-- The rows of both statements, as they are compared, are the same multiset. -/
def SameRows (o : Options) (reference predicted : List Row) : Prop :=
  (reference.map (Cell.ofRow o.floatPrecision) : Multiset (List Cell)) =
    predicted.map (Cell.ofRow o.floatPrecision)

/-- Rows can be compared exactly where all of their cells come about by writing, and then it is
these cells that are compared. -/
theorem areComparable_iff (o : Options) (rows : List Row) :
    areComparable o rows ↔
      ∀ row ∈ rows, Cell.ofRow? o.floatPrecision row = some (Cell.ofRow o.floatPrecision row) := by
  simp only [areComparable, Cell.ofRow?_eq, Bool.or_eq_true, decide_eq_true_eq, Bool.not_eq_true',
    List.any_eq_false, ite_eq_left_iff, reduceCtorEq, imp_false, not_not]
  constructor
  · rintro (few | written) row mem
    · exact .inl few
    · exact .inr (Bool.eq_false_iff.mpr (written row mem))
  · intro all
    by_cases few : o.floatPrecision ≤ FixedPlaces.limit
    · exact .inl few
    · refine .inr fun row mem => ?_
      exact Bool.eq_false_iff.mp ((all row mem).resolve_left few)

/-- A score of zero that comes from an error. -/
structure Blames (v : Verdict Float) (origin : Origin) (message : String)
    (details : List (String × Json)) : Prop where
  origin : v.origin = some origin
  error : v.error = some message
  details : v.details = .object details
  score : v.score = 0.0
  isCorrect : v.isCorrect = false

/-- The failure of a prediction as it stands in the details. -/
def predictedError : Outcome → List (String × Json)
  | .error g => [("predicted_error", g.toJson)]
  | .ok _ => []

/-- What a verdict says about the final outcomes `r` of the reference and `p` of the
prediction. -/
structure Classifies (o : Options) (r p : Outcome) (v : Verdict Float) : Prop where
  /-- A failure of the reference counts first; one of the prediction is kept too. -/
  reference (f : Failure) (failed : r = .error f) :
    Blames v .reference (MetricError.referenceFailed f).message
      (("reference_error", f.toJson) :: predictedError p)
  prediction (rows : List Row) (g : Failure) (returned : r = .ok rows) (failed : p = .error g) :
    Blames v .prediction (MetricError.predictionFailed g).message (predictedError p)
  /-- Rows that can be compared decide the score, and there is no error. -/
  rows (xs ys : List Row) (left : r = .ok xs) (right : p = .ok ys)
    (comparable : areComparable o xs && areComparable o ys) :
    v.error = none ∧ v.origin = none ∧
      (SameRows o xs ys → v.score = 1.0 ∧ v.isCorrect = true) ∧
        (¬ SameRows o xs ys → v.score = 0.0 ∧ v.isCorrect = false)
  /-- Rows can be compared exactly if their cells come about by writing. -/
  written (rows : List Row) : areComparable o rows ↔
    ∀ row ∈ rows, Cell.ofRow? o.floatPrecision row = some (Cell.ofRow o.floatPrecision row)
  /-- Floats that cannot be written with so many places crash the comparison. -/
  crash (xs ys : List Row) (left : r = .ok xs) (right : p = .ok ys)
    (noCells : ¬ (areComparable o xs && areComparable o ys)) :
    Blames v .metric "metric panicked: Formatting argument out of range" []
  /-- No other score occurs. -/
  score : v.score = 1.0 ∨ v.score = 0.0

/-- The verdict on the final outcomes of both statements. -/
def verdictOn (o : Options) (reference predicted : Outcome) : Verdict Float :=
  Verdict.ofAttempt metricName (judge o reference predicted)

theorem score_compareRows (o : Options) (xs ys : List Row) :
    (SameRows o xs ys →
        (compareRows o xs ys).score = 1.0 ∧ (compareRows o xs ys).isCorrect = true) ∧
      (¬ SameRows o xs ys →
        (compareRows o xs ys).score = 0.0 ∧ (compareRows o xs ys).isCorrect = false) := by
  have decides := Rows.isSame_compare (α := Float) o.sampleRows
    (xs.map (Cell.ofRow o.floatPrecision)) (ys.map (Cell.ofRow o.floatPrecision))
  constructor
  · intro same
    have isSame := decides.mpr same
    refine ⟨?_, isSame⟩
    show Verdict.clamp (Verdict.ofBool (RowVerdict.isSame _)) = (1.0 : Float)
    rw [isSame]
    decide +kernel
  · intro differ
    have isSame := Bool.eq_false_iff.mpr fun same => differ (decides.mp same)
    refine ⟨?_, isSame⟩
    show Verdict.clamp (Verdict.ofBool (RowVerdict.isSame _)) = (0.0 : Float)
    rw [isSame]
    decide +kernel

theorem score_eq_compareRows (o : Options) (xs ys : List Row) :
    (compareRows o xs ys).score = 1.0 ∨ (compareRows o xs ys).score = 0.0 := by
  by_cases same : SameRows o xs ys
  · exact .inl ((score_compareRows o xs ys).1 same).1
  · exact .inr ((score_compareRows o xs ys).2 same).1

theorem ofNat_zero : (Scale.ofNat 0 : Float) = 0.0 := by decide +kernel

theorem blames_failed (origin : Origin) (message : String) (details : List (String × Json)) :
    Blames (.failed metricName origin message details) origin message details :=
  ⟨rfl, rfl, rfl, ofNat_zero, rfl⟩

/-- The final outcomes decide the verdict. -/
theorem verdictOn_classifies (o : Options) (r p : Outcome) :
    Classifies o r p (verdictOn o r p) := by
  constructor
  · rintro f rfl
    cases p <;> exact blames_failed _ _ _
  · rintro rows g rfl rfl
    exact blames_failed _ _ _
  · rintro xs ys rfl rfl comparable
    have verdict : verdictOn o (.ok xs) (.ok ys) = compareRows o xs ys := by
      rw [verdictOn, judge, if_pos comparable, Verdict.ofAttempt]
    rw [verdict]
    exact ⟨rfl, rfl, score_compareRows o xs ys⟩
  · exact areComparable_iff o
  · rintro xs ys rfl rfl noCells
    rw [verdictOn, judge, if_neg noCells]
    exact blames_failed _ _ _
  · unfold verdictOn judge
    split
    · exact .inr ofNat_zero
    · exact .inr ofNat_zero
    · exact .inr ofNat_zero
    · split
      · exact score_eq_compareRows o _ _
      · exact .inr ofNat_zero

/-- Both statements are run one after the other, and the verdict is on what comes of them. -/
theorem run_evaluate {σ : Type} (o : Options) (h : Handle (StateM σ)) (id : String)
    (reference predicted : Text) (s : σ) (left : Text.isAllBlank reference = false)
    (right : Text.isAllBlank predicted = false) :
    ((metric o).evaluate ⟨id, reference, predicted, some h⟩).run s =
      let first := (h.executeRetrying reference o.retries).run s
      let second := (h.executeRetrying predicted o.retries).run first.2
      (verdictOn o first.1 second.1, second.2) := by
  simp only [Metric.evaluate, metric, Metric.statements, left, right]
  rfl

/-- Both statements are run, first the reference and then the prediction even if
the reference fails, each up to its final outcome; the outcomes decide the verdict. -/
theorem evaluate_classifies {σ : Type} (o : Options) (h : Handle (StateM σ)) (s : σ) (id : String)
    (reference predicted : Text) (left : Text.isAllBlank reference = false)
    (right : Text.isAllBlank predicted = false) :
    ∃ (v : Verdict Float) (after : σ) (first second : List Call) (r p : Outcome),
      ((metric o).evaluate ⟨id, reference, predicted, some h⟩).run s = (v, after) ∧
        ((metric o).evaluate ⟨id, reference, predicted, some h.recorded⟩).run (s, []) =
          (v, after, first ++ second) ∧
        Handle.Tried reference o.retries first r ∧ Handle.Tried predicted o.retries second p ∧
        Classifies o r p v := by
  obtain ⟨first, ranFirst, tried⟩ := h.executeRetrying_recorded reference o.retries s []
  obtain ⟨second, ranSecond, tried'⟩ := h.executeRetrying_recorded predicted o.retries
    ((h.executeRetrying reference o.retries).run s).2 first
  refine ⟨_, _, first, second, _, _, run_evaluate o h id reference predicted s left right, ?_,
    tried, tried', verdictOn_classifies o _ _⟩
  rw [run_evaluate o h.recorded id reference predicted (s, []) left right]
  simp only [ranFirst, List.nil_append, ranSecond]

/-- A reference that is run again after the connection was lost, and a prediction
that gives the same row as a float. -/
theorem evaluate_classifies_retried :
    Text.isAllBlank "SELECT 1".toList = false ∧ Text.isAllBlank "SELECT 1.0".toList = false ∧
      ∃ (v : Verdict Float) (after : Source) (first second : List Call) (r p : Outcome),
        ((metric ⟨10, 5, 1⟩).evaluate
            ⟨"q", "SELECT 1".toList, "SELECT 1.0".toList, some (Handle.script "s")⟩).run
          (.ofScript [.error (.ofKind .connection "lost"), .ok [[.int 1]], .ok [[.float 1]]]) =
          (v, after) ∧
        ((metric ⟨10, 5, 1⟩).evaluate
            ⟨"q", "SELECT 1".toList, "SELECT 1.0".toList, some (Handle.script "s").recorded⟩).run
          (.ofScript [.error (.ofKind .connection "lost"), .ok [[.int 1]], .ok [[.float 1]]], []) =
          (v, after, first ++ second) ∧
        Handle.Tried "SELECT 1".toList 1 first r ∧ Handle.Tried "SELECT 1.0".toList 1 second p ∧
        Classifies ⟨10, 5, 1⟩ r p v :=
  ⟨by decide, by decide,
    evaluate_classifies ⟨10, 5, 1⟩ (Handle.script "s")
      (.ofScript [.error (.ofKind .connection "lost"), .ok [[.int 1]], .ok [[.float 1]]])
      "q" "SELECT 1".toList "SELECT 1.0".toList (by decide) (by decide)⟩

/-- The verdict on two statements that both return the float 0.5 as their only row, compared
to 70000 places. -/
def verdictOnHalves : Verdict Float :=
  (((metric ⟨70000, 5, 0⟩).evaluate
      ⟨"q", "SELECT 0.5".toList, "SELECT .5".toList, some (Handle.script "s")⟩).run
    (.ofScript [.ok [[.float 0.5]]])).1

/-- The same rows have an error where a float among them is asked for too many places. -/
theorem crashes_on_sameRows :
    SameRows ⟨70000, 5, 0⟩ [[.float 0.5]] [[.float 0.5]] ∧
      verdictOnHalves.error = some "metric panicked: Formatting argument out of range" ∧
      verdictOnHalves.origin = some .metric ∧ verdictOnHalves.isCorrect = false := by
  refine ⟨rfl, ?_⟩
  decide +kernel

end ExecutionMatch

end SqlGrader
