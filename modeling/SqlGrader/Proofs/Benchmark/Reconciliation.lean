import SqlGrader.Benchmark.Report
import SqlGrader.Proofs.Benchmark.Schedule
import SqlGrader.Proofs.Benchmark.Totals
import SqlGrader.Proofs.Benchmark.Written
import SqlGrader.Proofs.Score.Suite
/-!
# Totals that agree

The workers of a pool, the summary and the report each count records in a way of their own: by
whether a question was answered, by what stands under the name of a metric, by whom a verdict
blames. Where the questions make up a dataset and the metrics at hand grade them, the counts agree,
whatever the predictor and the source of data do: every record has one verdict under the name of
each metric, and only execution match blames a reference statement, and only that of a question that
was answered.
-/

namespace SqlGrader

variable {σ : Type}

/-! ### Whom the metrics at hand blame -/

/-- A metric that looks at the texts only blames no reference that is there. -/
theorem Metric.ofTexts_blameless {name : String} {score : Text → Text → Verdict Float}
    (scores : ∀ r p, (score r p).origin = none) {c : Context (StateM σ)}
    (stated : Text.isAllBlank c.reference = false) (s : σ) :
    ((Metric.ofTexts name score).evaluate c s).1.isReferenceFailure = false := by
  change (Verdict.ofAttempt name
    (Attempt.ofExcept ((statements c).map fun t => score t.1 t.2))).isReferenceFailure = false
  rw [statements, stated]
  cases Text.isAllBlank c.predicted with
  | true => rfl
  | false =>
      have none := scores c.reference c.predicted
      simp [Except.map, Attempt.ofExcept, Verdict.ofAttempt, Verdict.isReferenceFailure, none]

/-- Without a prediction nothing is run. -/
theorem ExecutionMatch.blameless_of_unanswered (o : Options) {c : Context (StateM σ)}
    (stated : Text.isAllBlank c.reference = false) (blank : Text.isAllBlank c.predicted = true)
    (s : σ) : ((metric o).evaluate c s).1.isReferenceFailure = false := by
  change (Verdict.ofAttempt metricName ((metric o).score c s).1).isReferenceFailure = false
  simp only [metric, Metric.statements, stated, blank]
  cases c.handle <;> rfl

theorem MetricKind.blames_reference {kind : MetricKind} {o : ExecutionMatch.Options}
    {c : Context (StateM σ)} {s : σ} (stated : Text.isAllBlank c.reference = false)
    (blames : ((kind.metric o).evaluate c s).1.isReferenceFailure = true) :
    kind = .executionMatch ∧ Text.isAllBlank c.predicted = false := by
  cases kind with
  | exactMatch =>
      refine absurd blames (Bool.eq_false_iff.1 ?_)
      exact Metric.ofTexts_blameless (fun r p => rfl) stated s
  | componentMatch =>
      refine absurd blames (Bool.eq_false_iff.1 ?_)
      exact Metric.ofTexts_blameless (fun r p => rfl) stated s
  | executionMatch =>
      refine ⟨rfl, Bool.eq_false_iff.2 fun blank => ?_⟩
      exact absurd blames (Bool.eq_false_iff.1
        (ExecutionMatch.blameless_of_unanswered o stated blank s))

theorem MetricKind.name_injective : Function.Injective name := by
  intro kind other
  cases kind <;> cases other <;> decide

theorem MetricKind.names_suite (kinds : List MetricKind) (o : ExecutionMatch.Options) :
    Suite.names (suite kinds o : Suite (StateM σ)) = kinds.map name := by
  rw [Suite.names, suite, List.map_map]
  refine List.map_congr_left fun kind _ => ?_
  cases kind <;> rfl

/-- In a suite only execution match blames the reference, and only if there is a prediction. -/
theorem MetricKind.suite_blames {kinds : List MetricKind} {o : ExecutionMatch.Options}
    {c : Context (StateM σ)} (stated : Text.isAllBlank c.reference = false) (s : σ) :
    ∀ p ∈ ((suite kinds o).evaluate c s).1, p.2.isReferenceFailure = true →
      p.1 = ExecutionMatch.metricName ∧ Text.isAllBlank c.predicted = false := by
  intro p mem
  refine Suite.forall_mem_verdicts (fun name v => v.isReferenceFailure = true →
    name = ExecutionMatch.metricName ∧ Text.isAllBlank c.predicted = false) ?_ s p
    (Keyed.mem_of_mem_ofList mem)
  intro metric inside t blames
  obtain ⟨kind, -, rfl⟩ := List.mem_map.1 inside
  obtain ⟨rfl, answered⟩ := blames_reference stated blames
  exact ⟨rfl, answered⟩

/-! ### Records of the metrics at hand -/

namespace Record

/-- What is known of the record of a question that metrics of these kinds graded. -/
structure Fits (kinds : List MetricKind) (q : Question) (r : Record Float) : Prop where
  asked : r.question = q
  answered : r.isAnswered = !Text.isAllBlank r.predicted
  once : (r.verdicts.map (·.1)).Nodup
  named : ∀ name, name ∈ r.verdicts.map (·.1) ↔ name ∈ kinds.map MetricKind.name
  /-- Only execution match blames the reference, and only where there is a prediction. -/
  blames : Text.isAllBlank q.reference = false → ∀ p ∈ r.verdicts, p.2.isReferenceFailure = true →
    p.1 = ExecutionMatch.metricName ∧ r.isAnswered = true

variable {kinds : List MetricKind} {q : Question} {r : Record Float}

theorem Fits.verdict (fits : Fits kinds q r) {kind : MetricKind} (enabled : kind ∈ kinds) :
    (Keyed.get? kind.name r.verdicts).isSome = true := by
  rw [Option.isSome_iff_ne_none, ne_eq, Keyed.get?_eq_none_iff, not_not, fits.named]
  exact List.mem_map_of_mem enabled

theorem referenceFailure?_isSome :
    r.referenceFailure?.isSome = true ↔ ∃ p ∈ r.verdicts, p.2.isReferenceFailure = true := by
  rw [referenceFailure?, Option.isSome_map, List.find?_isSome]

/-- A record is listed as one with a broken reference if execution match says so of an answer. -/
theorem Fits.referenceFailure?_isSome (fits : Fits kinds q r)
    (stated : Text.isAllBlank q.reference = false) : r.referenceFailure?.isSome =
      (((Keyed.get? ExecutionMatch.metricName r.verdicts).map (·.isReferenceFailure)).getD false &&
        r.isAnswered) := by
  rw [Bool.eq_iff_iff, Record.referenceFailure?_isSome, Bool.and_eq_true]
  constructor
  · rintro ⟨⟨name, v⟩, mem, blames⟩
    obtain ⟨rfl, answered⟩ := fits.blames stated _ mem blames
    rw [(Keyed.get?_eq_some_iff fits.once).2 mem]
    exact ⟨blames, answered⟩
  · rintro ⟨blames, -⟩
    cases found : Keyed.get? ExecutionMatch.metricName r.verdicts with
    | none => simp [found] at blames
    | some v => exact ⟨_, Keyed.mem_of_get? found, by simpa [found] using blames⟩

end Record

/-- A grader with the metrics at hand. -/
def Grader.ofKinds (predictor : Predictor (StateM σ)) (kinds : List MetricKind)
    (o : ExecutionMatch.Options) (handle : Option (Handle (StateM σ))) (clock : StateM σ Nat) :
    Grader (StateM σ) :=
  ⟨predictor, MetricKind.suite kinds o, handle, clock⟩

theorem Grader.grade_fits (predictor : Predictor (StateM σ)) (kinds : List MetricKind)
    (o : ExecutionMatch.Options) (handle : Option (Handle (StateM σ))) (clock : StateM σ Nat)
    (q : Question) :
    Ensures (fun _ => True) ((ofKinds predictor kinds o handle clock).grade q)
      (Record.Fits kinds q) := by
  refine fun s _ => ⟨?_, trivial⟩
  obtain ⟨predicted, error, elapsed, t, made⟩ : ∃ predicted error elapsed t,
      ((ofKinds predictor kinds o handle clock).grade q s).1 =
        ⟨q, predicted, error, !Text.isAllBlank predicted, elapsed,
          ((MetricKind.suite kinds o).evaluate ⟨q.id, q.reference, predicted, handle⟩ t).1⟩ :=
    ⟨_, _, _, _, rfl⟩
  rw [made]
  refine ⟨rfl, rfl, (Keyed.sorted_ofList _).nodup, fun name => ?_, fun stated p mem blames => ?_⟩
  · rw [← MetricKind.names_suite (σ := σ) kinds o, ← Suite.names_verdicts]
    exact Keyed.mem_names_ofList
  · obtain ⟨named, answered⟩ := MetricKind.suite_blames stated t p mem blames
    exact ⟨named, by simp [answered]⟩

/-! ### Counts -/

theorem Dataset.stated_of_validate {questions : List Question}
    (valid : Dataset.validate questions = .ok ()) :
    ∀ q ∈ questions, Text.isAllBlank q.reference = false :=
  fun q mem => ((validate_eq_ok_iff.1 valid).2.1 q mem).2

namespace Evaluation

/-- The tally of the workers, the summary and the report agree about an evaluation. -/
structure Reconciles (kinds : List MetricKind) (questions : List Question) (e : Evaluation Float)
    (s : Summary Float) : Prop where
  answered : s.tally.answered = e.records.countP fun r => !Text.isAllBlank r.predicted
  answeredByDifficulty : (s.difficulties.map (·.2.answered)).sum = s.tally.answered
  answeredByMetric : ∀ kind ∈ kinds,
    ∃ m, Keyed.get? kind.name s.metrics = some m ∧ m.total = s.tally.answered
  total : s.tally.answered + s.tally.unanswered = questions.length
  totalByDifficulty : (s.difficulties.map (·.2.total)).sum = questions.length
  unblamed : ∀ r ∈ e.records, Text.isAllBlank r.predicted = true →
    ∀ p ∈ r.verdicts, p.2.origin ≠ some .reference
  broken : .executionMatch ∈ kinds → ∃ m, Keyed.get? ExecutionMatch.metricName s.metrics = some m ∧
    (Report.brokenReferences e.records).length = m.referenceFailures
  unbroken : .executionMatch ∉ kinds → Report.brokenReferences e.records = []

variable {kinds : List MetricKind} {questions : List Question} {records : List (Record Float)}
  {e : Evaluation Float}

/-- Every answered question has a verdict of an enabled metric. -/
theorem length_verdictsOf (fits : ∀ r ∈ records, r.Fits kinds r.question) {kind : MetricKind}
    (enabled : kind ∈ kinds) :
    (MetricSummary.verdictsOf kind.name (records.filter (·.isAnswered))).length =
      records.countP (·.isAnswered) := by
  rw [MetricSummary.verdictsOf, List.length_filterMap_eq_countP]
  refine Eq.trans ?_ List.countP_eq_length_filter.symm
  exact List.countP_eq_length.2 fun r mem =>
    (fits r (List.mem_of_mem_filter mem)).verdict enabled

/-- The report lists the records in which execution match blames the reference. -/
theorem length_brokenReferences (fits : ∀ r ∈ records, r.Fits kinds r.question)
    (stated : ∀ r ∈ records, Text.isAllBlank r.question.reference = false) :
    (Report.brokenReferences records).length =
      (MetricSummary.verdictsOf ExecutionMatch.metricName
        (records.filter (·.isAnswered))).countP (·.isReferenceFailure) := by
  rw [Report.brokenReferences, MetricSummary.verdictsOf, List.length_filterMap_eq_countP,
    List.countP_filterMap, List.countP_filter]
  refine List.countP_congr fun r mem => ?_
  rw [Option.isSome_map, (fits r mem).referenceFailure?_isSome (stated r mem)]

theorem brokenReferences_eq_nil (fits : ∀ r ∈ records, r.Fits kinds r.question)
    (stated : ∀ r ∈ records, Text.isAllBlank r.question.reference = false)
    (disabled : .executionMatch ∉ kinds) : Report.brokenReferences records = [] := by
  refine List.filterMap_eq_nil_iff.2 fun r mem => ?_
  rw [Option.map_eq_none_iff, ← Option.not_isSome_iff_eq_none, Record.referenceFailure?_isSome]
  rintro ⟨p, inside, blames⟩
  obtain ⟨named, -⟩ := (fits r mem).blames (stated r mem) p inside blames
  have known := ((fits r mem).named p.1).1 (List.mem_map_of_mem inside)
  obtain ⟨kind, enabled, same⟩ := List.mem_map.1 known
  have execution : kind.name = MetricKind.executionMatch.name := same.trans named
  exact disabled (MetricKind.name_injective execution ▸ enabled)

theorem reconciles_of_fits (fits : ∀ r ∈ e.records, r.Fits kinds r.question)
    (asked : e.records.map (·.question) = questions)
    (stated : ∀ q ∈ questions, Text.isAllBlank q.reference = false)
    (answered : e.tally.answered = e.records.countP (·.isAnswered))
    (total : e.tally.answered + e.tally.unanswered = questions.length) :
    Reconciles kinds questions e (.ofEvaluation e (kinds.map MetricKind.name)) := by
  have once : ∀ r ∈ e.records, (r.verdicts.map (·.1)).Nodup := fun r mem => (fits r mem).once
  have stated' : ∀ r ∈ e.records, Text.isAllBlank r.question.reference = false :=
    fun r mem => stated _ (asked ▸ List.mem_map_of_mem mem)
  have nonblank : e.records.countP (·.isAnswered) =
      e.records.countP fun r => !Text.isAllBlank r.predicted :=
    List.countP_congr fun r mem => by rw [(fits r mem).answered]
  have metrics {kind : MetricKind} (enabled : kind ∈ kinds) :=
    Summary.get?_metricsOf once (List.mem_map_of_mem (f := MetricKind.name) enabled)
  exact {
    answered := answered.trans nonblank
    answeredByDifficulty := (Summary.sum_answered_difficultiesOf e.records).trans answered.symm
    answeredByMetric := fun kind enabled => by
      refine ⟨_, metrics enabled, ?_⟩
      rw [MetricSummary.total_foldl_add, length_verdictsOf fits enabled]
      exact (Nat.zero_add _).trans answered.symm
    total := total
    totalByDifficulty := by
      rw [← asked, List.length_map]
      exact Summary.sum_total_difficultiesOf e.records
    unblamed := fun r mem blank p inside blames => by
      have answered := ((fits r mem).blames (stated' r mem) p inside (by
        simp [Verdict.isReferenceFailure, blames])).2
      simp [(fits r mem).answered, blank] at answered
    broken := fun enabled => by
      refine ⟨_, metrics enabled, ?_⟩
      rw [MetricSummary.referenceFailures_foldl_add, length_brokenReferences fits stated']
      exact (Nat.zero_add _).symm
    unbroken := brokenReferences_eq_nil fits stated' }

end Evaluation

namespace Grader

/-- Whatever the predictor and the source of data do, the totals of a dataset that the metrics at
hand grade agree, with any number of workers and after any schedule that lets them finish; so they
do after the schedule that is used. -/
theorem gradeScheduled_reconciles (predictor : Predictor (StateM σ)) (kinds : List MetricKind)
    (o : ExecutionMatch.Options) (handle : Option (Handle (StateM σ))) (clock : StateM σ Nat)
    (allowed : Nat) {questions : List Question} {schedule : List Nat}
    (valid : Dataset.validate questions = .ok ())
    (completes : Pool.Completes (Pool.workerCount allowed questions.length) questions schedule)
    (s : σ) :
    let g := ofKinds predictor kinds o handle clock
    let workers := Pool.workerCount allowed questions.length
    (∃ pool s', g.gradeScheduled workers schedule questions s = (pool, s') ∧ pool.isDone ∧
      Evaluation.Reconciles kinds questions ⟨pool.inOrder, pool.tally, workers⟩
        (.ofEvaluation ⟨pool.inOrder, pool.tally, workers⟩ g.suite.names)) ∧
    Evaluation.Reconciles kinds questions (g.gradeAll allowed questions s).1
      (.ofEvaluation (g.gradeAll allowed questions s).1 g.suite.names) := by
  intro g workers
  have names : g.suite.names = kinds.map MetricKind.name := MetricKind.names_suite kinds o
  have reconciles {schedule : List Nat} (completes : Pool.Completes workers questions schedule) :
      ∃ pool s', g.gradeScheduled workers schedule questions s = (pool, s') ∧ pool.isDone ∧
        Evaluation.Reconciles kinds questions ⟨pool.inOrder, pool.tally, workers⟩
          (.ofEvaluation ⟨pool.inOrder, pool.tally, workers⟩ (kinds.map MetricKind.name)) := by
    obtain ⟨pool, log, s', graded, -, done, sound⟩ :=
      gradeScheduled_sound_of (grade_fits predictor kinds o handle clock)
        (fun _ _ fits => fits.asked) (Pool.workerCount_pos allowed questions.length) completes
        (s := s) trivial
    exact ⟨pool, s', graded, done, Evaluation.reconciles_of_fits sound.right_inOrder
      (sound.questions_inOrder done) (Dataset.stated_of_validate valid) sound.tally_inOrder.1
      (sound.tally_total done)⟩
  rw [names]
  refine ⟨reconciles completes, ?_⟩
  obtain ⟨pool, s', graded, -, agrees⟩ := reconciles (Pool.rounds_completes questions)
  rw [gradeAll_eq graded]
  exact agrees

/-- A predictor that has a statement, a blank one, an error and a crash, and a source of data on
which every statement fails. Both count how often they are asked. -/
theorem gradeScheduled_reconciles_troubled :
    let predictor : Predictor (StateM Nat) := ⟨"moody", fun q n =>
      (if q.id = "a" then .value "SELECT 1".toList else if q.id = "b" then .value [' ']
        else if q.id = "c" then .error (.missing q.id) else .crash none, n + 1)⟩
    let source : Handle (StateM Nat) :=
      ⟨"broken", fun _ n => (.error (.ofKind .undefinedTable "no table"), n + 1)⟩
    let asked (id difficulty : String) : Question :=
      ⟨id, "one?", "SELECT 1".toList, difficulty, none⟩
    let questions := [asked "a" "easy", asked "b" "hard", asked "c" "easy", asked "d" "easy"]
    let g := ofKinds predictor MetricKind.all ExecutionMatch.defaults (some source) fun n => (n, n)
    let workers := Pool.workerCount 2 questions.length
    Dataset.validate questions = .ok () ∧
      Pool.Completes workers questions [1, 0, 0, 1, 1, 1, 0, 0] ∧
      (∃ pool s', g.gradeScheduled workers [1, 0, 0, 1, 1, 1, 0, 0] questions 0 = (pool, s') ∧
        pool.isDone ∧
        Evaluation.Reconciles MetricKind.all questions ⟨pool.inOrder, pool.tally, workers⟩
          (.ofEvaluation ⟨pool.inOrder, pool.tally, workers⟩ g.suite.names)) ∧
      Evaluation.Reconciles MetricKind.all questions (g.gradeAll 2 questions 0).1
        (.ofEvaluation (g.gradeAll 2 questions 0).1 g.suite.names) := by
  intro predictor source asked questions g workers
  have valid : Dataset.validate questions = .ok () := by decide +kernel
  have completes : Pool.Completes workers questions [1, 0, 0, 1, 1, 1, 0, 0] := by decide
  exact ⟨valid, completes, gradeScheduled_reconciles predictor MetricKind.all
    ExecutionMatch.defaults (some source) (fun n => (n, n)) 2 valid completes 0⟩

end Grader

end SqlGrader
