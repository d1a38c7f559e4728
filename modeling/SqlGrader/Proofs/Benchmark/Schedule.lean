import SqlGrader.Proofs.Benchmark.PoolRun
/-!
# Schedules

However many workers grade a benchmark, and in whatever order they make their steps, the evaluation
is the same: each question is graded once, the records come in the order of the questions, and the
tally counts those that were answered and those that were not.
-/

namespace SqlGrader

namespace Pool

variable {α : Type}

/-- Every worker stands in the schedule as often as it has steps to make for its share. It may stand
there more often: then it has nothing left to do. -/
def Completes (workers : Nat) (questions : List Question) (schedule : List Nat) : Prop :=
  ∀ w < workers, 2 * (share workers w questions).length ≤ schedule.count w

instance (workers : Nat) (questions : List Question) (schedule : List Nat) :
    Decidable (Completes workers questions schedule) :=
  inferInstanceAs (Decidable (∀ w < workers, _))

theorem workerCount_pos (allowed questions : Nat) : 0 < workerCount allowed questions := by
  unfold workerCount
  omega

theorem stepsLeft_start (workers : Nat) (questions : List Question) (w : Nat) :
    (start workers questions : Pool α).stepsLeft w =
      if w < workers then 2 * (share workers w questions).length else 0 := by
  by_cases known : w < workers <;> simp [stepsLeft, start, known]

theorem completes_iff_stepsLeft (workers : Nat) (questions : List Question) (schedule : List Nat) :
    Completes workers questions schedule ↔
      ∀ w, (start workers questions : Pool α).stepsLeft w - schedule.count w = 0 := by
  refine forall_congr' fun w => ?_
  rw [stepsLeft_start]
  by_cases known : w < workers <;> simp [known, Nat.sub_eq_zero_iff_le]

/-- The schedule that is used lets the workers finish. -/
theorem rounds_completes {workers : Nat} (questions : List Question) :
    Completes workers questions (rounds workers questions.length) := by
  intro w known
  have each : List.count w (List.range workers) = 1 := by rw [List.count_range, if_pos known]
  have turns (n : Nat) : (List.replicate n (List.range workers)).flatten.count w = n := by
    induction n with
    | zero => rfl
    | succ n ih => rw [List.replicate_succ, List.flatten_cons, List.count_append, each, ih]; omega
  rw [rounds, turns, length_share known]
  exact Nat.mul_le_mul_left 2 (Nat.div_le_div_right (by omega))

end Pool

namespace Grader

variable {σ : Type} {kept : σ → Prop}

/-- The records are those of the questions, in their order, and the tally counts them. -/
structure Accounts (kept : σ → Prop) (g : Grader (StateM σ)) (questions : List Question)
    (records : List (Record Float)) (tally : Tally) : Prop where
  /-- Grading a question for itself, at any time, gives its record up to the time that it took. -/
  in_order : ∀ s, kept s →
    records.map Record.untimed = questions.map fun q => ((g.grade q s).1).untimed
  /-- An answer is a prediction that is not blank. -/
  flagged : ∀ r ∈ records, r.isAnswered = !Text.isAllBlank r.predicted
  answered : tally.answered = List.countP Record.isAnswered records
  unanswered : tally.unanswered = List.countP (fun r => !r.isAnswered) records
  total : tally.answered + tally.unanswered = questions.length

theorem accounts_of_sound {g : Grader (StateM σ)} {questions log : List Question}
    {pool : Pool Float} (sound : pool.Sound (g.Graded kept) questions log) (done : pool.isDone)
    {s : σ} (keeps : kept s) : g.Accounts kept questions pool.inOrder pool.tally := by
  have order := sound.questions_inOrder done
  obtain ⟨answered, unanswered⟩ := sound.tally_inOrder
  refine ⟨fun s keeps => ?_, fun r mem => (sound.right_inOrder r mem).isAnswered keeps, answered,
    unanswered, sound.tally_total done⟩
  rw [← order, List.map_map]
  exact List.map_congr_left fun r mem => ((sound.right_inOrder r mem).2 s keeps).symm

/-- A schedule that lets the workers finish leaves nothing to do, and a sound pool, whatever is
known of the records that grading gives. -/
theorem gradeScheduled_sound_of {g : Grader (StateM σ)} {Graded : Question → Record Float → Prop}
    (grades : ∀ q, Ensures kept (g.grade q) (Graded q))
    (asks : ∀ q r, Graded q r → r.question = q) {workers : Nat} (some : 0 < workers)
    {questions : List Question} {schedule : List Nat}
    (completes : Pool.Completes workers questions schedule) {s : σ} (keeps : kept s) :
    ∃ pool log s', g.gradeScheduled workers schedule questions s = (pool, s') ∧
      (Pool.start workers questions).run (Pool.observed g.grade) schedule (s, []) =
        (pool, (s', log)) ∧
      pool.isDone ∧ pool.Sound Graded questions log := by
  obtain ⟨pool, log, s', plain, written, sound, -, left⟩ :=
    Pool.run_sound grades asks schedule (Pool.sound_start some questions) keeps
  refine ⟨pool, log, s', plain, written, (Pool.isDone_iff_stepsLeft pool).2 fun w => ?_, sound⟩
  rw [left]
  exact (Pool.completes_iff_stepsLeft workers questions schedule).1 completes w

/-- The evaluation by at most so many workers is what the pool comes to by the schedule that is
used. -/
theorem gradeAll_eq {g : Grader (StateM σ)} {allowed : Nat} {questions : List Question} {s s' : σ}
    {pool : Pool Float}
    (graded : g.gradeScheduled (Pool.workerCount allowed questions.length)
      (Pool.rounds (Pool.workerCount allowed questions.length) questions.length) questions s =
        (pool, s')) :
    g.gradeAll allowed questions s =
      (⟨pool.inOrder, pool.tally, Pool.workerCount allowed questions.length⟩, s') :=
  congrArg (fun p : Pool Float × σ => ((⟨p.1.inOrder, p.1.tally, _⟩ : Evaluation Float), p.2))
    graded

/-- What is known of the records that grading gives, from whatever state, is known of the records of
the evaluation, one for each question. -/
theorem gradeAll_records {g : Grader (StateM σ)} {Graded : Question → Record Float → Prop}
    {questions : List Question} (grades : ∀ q ∈ questions, ∀ s, Graded q (g.grade q s).1)
    (allowed : Nat) (s : σ) :
    List.Forall₂ Graded questions (g.gradeAll allowed questions s).1.records := by
  have asks (q : Question) : Ensures (fun _ => True) (g.grade q) fun r =>
      r.question = q ∧ (q ∈ questions → Graded q r) :=
    fun t _ => ⟨⟨rfl, fun mem => grades q mem t⟩, trivial⟩
  obtain ⟨pool, log, s', plain, -, done, sound⟩ :=
    gradeScheduled_sound_of asks (fun _ _ right => right.1)
      (Pool.workerCount_pos allowed questions.length) (Pool.rounds_completes questions) (s := s)
      trivial
  have order := sound.questions_inOrder done
  have right : List.Forall₂ (fun r r' => Graded r.question r') pool.inOrder pool.inOrder :=
    List.forall₂_same.2 fun r mem =>
      (sound.right_inOrder r mem).2 (order ▸ List.mem_map_of_mem mem)
  rw [gradeAll_eq plain]
  rwa [← List.forall₂_map_left_iff, order] at right

/-- Only the grading of its questions bears on an evaluation. -/
theorem gradeAll_congr {g g' : Grader (StateM σ)} {questions : List Question}
    (same : ∀ q ∈ questions, g.grade q = g'.grade q) (allowed : Nat) (s : σ) :
    g.gradeAll allowed questions s = g'.gradeAll allowed questions s := by
  let workers := Pool.workerCount allowed questions.length
  have waiting (p : Nat × Question)
      (mem : p ∈ (Pool.start workers questions : Pool Float).waiting) :
      g.grade p.2 = g'.grade p.2 := by
    have place := (Pool.waiting_start (Pool.workerCount_pos _ _) questions).subset mem
    exact same _ (Pool.map_snd_places questions ▸ List.mem_map_of_mem place)
  let schedule := Pool.rounds workers questions.length
  have runs : g.gradeScheduled workers schedule questions s =
      g'.gradeScheduled workers schedule questions s := Pool.run_congr waiting schedule s
  cases graded : g'.gradeScheduled workers schedule questions s with
  | mk pool s' => rw [gradeAll_eq graded, gradeAll_eq (runs.trans graded)]

theorem gradeScheduled_sound {g : Grader (StateM σ)} (steady : g.IsSteady kept) {workers : Nat}
    (some : 0 < workers) {questions : List Question} {schedule : List Nat}
    (completes : Pool.Completes workers questions schedule) {s : σ} (keeps : kept s) :
    ∃ pool log s', g.gradeScheduled workers schedule questions s = (pool, s') ∧
      (Pool.start workers questions).run (Pool.observed g.grade) schedule (s, []) =
        (pool, (s', log)) ∧
      pool.isDone ∧ pool.Sound (g.Graded kept) questions log :=
  gradeScheduled_sound_of (grade_graded steady) (fun _ _ right => right.1) some completes keeps

/-- With any number of workers, after any schedule that lets them finish, each question was graded
once and the records and the tally account for the questions; so they do after the schedule that is
used. -/
theorem gradeScheduled_accounts {g : Grader (StateM σ)} (steady : g.IsSteady kept) (allowed : Nat)
    (questions : List Question) {schedule : List Nat}
    (completes : Pool.Completes (Pool.workerCount allowed questions.length) questions schedule)
    {s : σ} (keeps : kept s) :
    (∃ pool log s',
      g.gradeScheduled (Pool.workerCount allowed questions.length) schedule questions s =
        (pool, s') ∧
      (Pool.start (Pool.workerCount allowed questions.length) questions).run
        (Pool.observed g.grade) schedule (s, []) = (pool, (s', log)) ∧
      pool.isDone ∧ log.Perm questions ∧ g.Accounts kept questions pool.inOrder pool.tally) ∧
    g.Accounts kept questions (g.gradeAll allowed questions s).1.records
      (g.gradeAll allowed questions s).1.tally := by
  have some := Pool.workerCount_pos allowed questions.length
  constructor
  · obtain ⟨pool, log, s', plain, written, done, sound⟩ :=
      gradeScheduled_sound steady some completes keeps
    exact ⟨pool, log, s', plain, written, done, sound.log_perm done,
      accounts_of_sound sound done keeps⟩
  · obtain ⟨pool, log, s', plain, -, done, sound⟩ :=
      gradeScheduled_sound steady some (Pool.rounds_completes questions) keeps
    rw [gradeAll_eq plain]
    exact accounts_of_sound sound done keeps

/-- Recorded predictions, graded by the metrics at hand on a table of outcomes. The clock goes by
the statements in the log. -/
def ofRecords (predictions : Predictions) (kinds : List MetricKind) (o : ExecutionMatch.Options) :
    Grader (StateM Source) :=
  ⟨predictions.predictor, MetricKind.suite kinds o, some Handle.table, fun s => (s.log.length, s)⟩

theorem ofRecords_isSteady (predictions : Predictions) (kinds : List MetricKind)
    (o : ExecutionMatch.Options) (entries : List (Text × Outcome)) :
    (ofRecords predictions kinds o).IsSteady (·.table = entries) where
  predictor := predictions.predictor_isSteady
  suite := MetricKind.suite_isSteady kinds o
  handle := by
    intro h mem
    obtain rfl := Option.some.inj mem
    exact Handle.table_isSteady entries
  clock := fun s keeps => ⟨trivial, keeps⟩

/-- Two workers share three questions; the second one is through before the first one hands in. -/
theorem gradeScheduled_accounts_three :
    let table : List (Text × Outcome) := [("SELECT 1".toList, .ok [])]
    let source : Source := ⟨table, [], []⟩
    let asked (id : String) : Question := ⟨id, "one?", "SELECT 1".toList, "easy", none⟩
    let questions := [asked "a", asked "b", asked "c"]
    let g := ofRecords [("a", "SELECT 1".toList), ("c", [])] MetricKind.all ExecutionMatch.defaults
    g.IsSteady (·.table = table) ∧ source.table = table ∧
      Pool.Completes (Pool.workerCount 2 questions.length) questions [0, 1, 1, 0, 0, 0] ∧
      (∃ pool log s',
        g.gradeScheduled (Pool.workerCount 2 questions.length) [0, 1, 1, 0, 0, 0] questions source =
          (pool, s') ∧
        (Pool.start (Pool.workerCount 2 questions.length) questions).run
          (Pool.observed g.grade) [0, 1, 1, 0, 0, 0] (source, []) = (pool, (s', log)) ∧
        pool.isDone ∧ log.Perm questions ∧
        g.Accounts (·.table = table) questions pool.inOrder pool.tally) ∧
      g.Accounts (·.table = table) questions (g.gradeAll 2 questions source).1.records
        (g.gradeAll 2 questions source).1.tally := by
  intro table source asked questions g
  have steady : g.IsSteady (·.table = table) := ofRecords_isSteady _ _ _ table
  have completes : Pool.Completes (Pool.workerCount 2 questions.length) questions
      [0, 1, 1, 0, 0, 0] := by decide
  exact ⟨steady, rfl, completes, gradeScheduled_accounts steady 2 questions completes rfl⟩

end Grader

end SqlGrader
