import SqlGrader.Benchmark.Grading
import SqlGrader.Score.MetricKind
/-!
# Steady answers

An action is steady if its answer is the same whenever it is asked, as long as the state keeps some
condition: the state may count calls, or keep a log of them, but it does not show in the answer. A
grader whose predictor, metrics and source of data are steady gives the same record of a question
at any time, up to the time that the prediction took. The metrics at hand, recorded predictions and
a table of outcomes are steady.
-/

namespace SqlGrader

variable {σ α β : Type} {kept : σ → Prop}

/-- From every state that keeps the condition, the action gives an answer of the kind wanted and
leaves a state that keeps the condition. -/
def Ensures (kept : σ → Prop) (x : StateM σ α) (wanted : α → Prop) : Prop :=
  ∀ s, kept s → wanted (x s).1 ∧ kept (x s).2

/-- The action gives one and the same answer from every state that keeps the condition. -/
def Steady (kept : σ → Prop) (x : StateM σ α) : Prop := ∃ a, Ensures kept x (· = a)

theorem Ensures.bind {x : StateM σ α} {f : α → StateM σ β} {P : α → Prop} {Q : β → Prop}
    (first : Ensures kept x P) (rest : ∀ a, P a → Ensures kept (f a) Q) :
    Ensures kept (x >>= f) Q := by
  intro s keeps
  obtain ⟨answer, keeps⟩ := first s keeps
  exact rest _ answer _ keeps

theorem Ensures.pure {a : α} {P : α → Prop} (wanted : P a) :
    Ensures kept (Pure.pure a : StateM σ α) P := fun _ keeps => ⟨wanted, keeps⟩

theorem Ensures.map {x : StateM σ α} {f : α → β} {P : α → Prop} {Q : β → Prop}
    (first : Ensures kept x P) (rest : ∀ a, P a → Q (f a)) : Ensures kept (f <$> x) Q := by
  intro s keeps
  obtain ⟨answer, keeps⟩ := first s keeps
  exact ⟨rest _ answer, keeps⟩

namespace Steady

theorem pure (a : α) : Steady kept (Pure.pure a : StateM σ α) := ⟨a, .pure rfl⟩

theorem bind {x : StateM σ α} {f : α → StateM σ β} (first : Steady kept x)
    (rest : ∀ a, Steady kept (f a)) : Steady kept (x >>= f) := by
  obtain ⟨a, first⟩ := first
  obtain ⟨b, second⟩ := rest a
  refine ⟨b, first.bind ?_⟩
  rintro _ rfl
  exact second

theorem map {x : StateM σ α} (f : α → β) (steady : Steady kept x) : Steady kept (f <$> x) := by
  obtain ⟨a, ensures⟩ := steady
  exact ⟨f a, ensures.map fun _ same => congrArg f same⟩

theorem mapM {f : α → StateM σ β} {l : List α} (each : ∀ a ∈ l, Steady kept (f a)) :
    Steady kept (l.mapM f) := by
  induction l with
  | nil => exact .pure []
  | cons a l ih =>
      rw [List.mapM_cons]
      exact (each a (by simp)).bind fun b =>
        (ih fun c mem => each c (by simp [mem])).bind fun bs => .pure (b :: bs)

end Steady

/-- Every statement has one outcome. -/
def Handle.IsSteady (kept : σ → Prop) (h : Handle (StateM σ)) : Prop :=
  ∀ sql, Steady kept (h.execute sql)

/-- On a steady source of data, the metric scores alike at any time. -/
def Metric.IsSteady (kept : σ → Prop) (metric : Metric (StateM σ)) : Prop :=
  ∀ c, (∀ h ∈ c.handle, h.IsSteady kept) → Steady kept (metric.score c)

/-- Every question has one prediction. -/
def Predictor.IsSteady (kept : σ → Prop) (predictor : Predictor (StateM σ)) : Prop :=
  ∀ q, Steady kept (predictor.predict q)

/-- All that a grader asks is steady. Only the clock moves on. -/
structure Grader.IsSteady (kept : σ → Prop) (g : Grader (StateM σ)) : Prop where
  predictor : g.predictor.IsSteady kept
  suite : ∀ metric ∈ g.suite, metric.IsSteady kept
  handle : ∀ h ∈ g.handle, h.IsSteady kept
  clock : Ensures kept g.clock fun _ => True

/-! ## What is at hand -/

theorem Predictions.predictor_isSteady (predictions : Predictions) :
    (predictions.predictor : Predictor (StateM σ)).IsSteady kept := fun _ => .pure _

/-- A table of outcomes only adds to its log. -/
theorem Handle.table_isSteady (entries : List (Text × Outcome)) :
    Handle.table.IsSteady (σ := Source) (·.table = entries) := by
  intro sql
  refine ⟨(entries.lookup (Text.trim sql)).getD
    (.error (Source.unknownStatement (Text.trim sql))), ?_⟩
  rintro s rfl
  exact ⟨rfl, rfl⟩

theorem Handle.IsSteady.executeRetrying {h : Handle (StateM σ)} (steady : h.IsSteady kept)
    (sql : Text) (retries : Nat) : Steady kept (h.executeRetrying sql retries) := by
  induction retries with
  | zero => exact steady sql
  | succ n ih =>
      refine (steady sql).bind fun outcome => ?_
      cases outcome with
      | error f =>
          simp only
          split
          · exact ih
          · exact .pure _
      | ok rows => exact .pure _

theorem Metric.ofTexts_isSteady (name : String) (score : Text → Text → Verdict Float) :
    (Metric.ofTexts name score : Metric (StateM σ)).IsSteady kept := fun _ _ => .pure _

theorem ExecutionMatch.metric_isSteady (o : Options) :
    (metric o : Metric (StateM σ)).IsSteady kept := by
  intro c handle
  simp only [metric]
  cases given : c.handle with
  | none => exact .pure _
  | some h =>
      have steady := handle h given
      cases Metric.statements c with
      | error e => exact .pure _
      | ok statements =>
          exact (steady.executeRetrying _ _).bind fun r =>
            (steady.executeRetrying _ _).bind fun p => .pure (judge o r p)

theorem MetricKind.suite_isSteady (kinds : List MetricKind) (o : ExecutionMatch.Options) :
    ∀ metric ∈ (MetricKind.suite kinds o : Suite (StateM σ)), metric.IsSteady kept := by
  intro metric mem
  obtain ⟨kind, -, rfl⟩ := List.mem_map.1 mem
  cases kind with
  | exactMatch => exact Metric.ofTexts_isSteady _ _
  | componentMatch => exact Metric.ofTexts_isSteady _ _
  | executionMatch => exact ExecutionMatch.metric_isSteady o

/-! ## Grading -/

theorem Suite.evaluate_steady {suite : Suite (StateM σ)}
    (each : ∀ metric ∈ suite, metric.IsSteady kept) {c : Context (StateM σ)}
    (handle : ∀ h ∈ c.handle, h.IsSteady kept) : Steady kept (suite.evaluate c) :=
  .map _ (.mapM fun metric mem => .map _ (.map _ (each metric mem c handle)))

/-- The record but for the time that the prediction took. -/
def Record.untimed (r : Record α) : Record α := { r with elapsed := 0 }

namespace Grader

/-- A question counts as answered by a statement that is not blank. -/
theorem isAnswered_grade (g : Grader (StateM σ)) (q : Question) (s : σ) :
    (g.grade q s).1.isAnswered = !Text.isAllBlank (g.grade q s).1.predicted := rfl

/-- The record is one of the question: apart from the time, grading the question gives just that
from every state that keeps the condition. -/
def Graded (kept : σ → Prop) (g : Grader (StateM σ)) (q : Question) (r : Record Float) : Prop :=
  r.question = q ∧ ∀ s, kept s → ((g.grade q s).1).untimed = r.untimed

theorem grade_untimed {g : Grader (StateM σ)} (steady : g.IsSteady kept) (q : Question) :
    ∃ r : Record Float, Ensures kept (g.grade q) fun graded =>
      graded.question = q ∧ graded.untimed = r := by
  obtain ⟨attempt, predicts⟩ := steady.predictor q
  obtain ⟨verdicts, evaluates⟩ := Suite.evaluate_steady steady.suite
    (c := ⟨q.id, q.reference, (Predictor.settle attempt).1, g.handle⟩) steady.handle
  refine ⟨⟨q, (Predictor.settle attempt).1, (Predictor.settle attempt).2,
    !Text.isAllBlank (Predictor.settle attempt).1, 0, verdicts⟩, ?_⟩
  refine steady.clock.bind fun started _ => predicts.bind ?_
  rintro _ rfl
  refine steady.clock.bind fun ended _ => evaluates.bind ?_
  rintro _ rfl
  exact .pure ⟨rfl, rfl⟩

/-- So it does in a record that is one of its question. -/
theorem Graded.isAnswered {g : Grader (StateM σ)} {q : Question} {r : Record Float}
    (graded : g.Graded kept q r) {s : σ} (keeps : kept s) :
    r.isAnswered = !Text.isAllBlank r.predicted := by
  have same : (g.grade q s).1.untimed = r.untimed := graded.2 s keeps
  calc r.isAnswered
    _ = (g.grade q s).1.isAnswered := (congrArg Record.isAnswered same).symm
    _ = !Text.isAllBlank (g.grade q s).1.predicted := isAnswered_grade g q s
    _ = !Text.isAllBlank r.predicted := congrArg (fun r => !Text.isAllBlank r.predicted) same

/-- A steady grader gives a record of the question. -/
theorem grade_graded {g : Grader (StateM σ)} (steady : g.IsSteady kept) (q : Question) :
    Ensures kept (g.grade q) (g.Graded kept q) := by
  obtain ⟨r, ensures⟩ := grade_untimed steady q
  intro s keeps
  obtain ⟨⟨asked, same⟩, keeps⟩ := ensures s keeps
  exact ⟨⟨asked, fun t kept => (ensures t kept).1.2.trans same.symm⟩, keeps⟩

end Grader

end SqlGrader
