import Mathlib.Data.List.Count
import SqlGrader.Proofs.Benchmark.Shares
import SqlGrader.Proofs.Benchmark.Steady
/-!
# Runs of a pool

What a step of a worker can do to a pool, what every step keeps, and what is left of the steps. From
these, whatever the schedule: at any time the records and the questions that wait are the questions
once each, and the tally counts the records that were handed in. When nothing is left to do the
records, put in order, are those of the questions. Questions that do not wait are never graded.
-/

namespace SqlGrader.Pool

variable {σ α β γ : Type} {kept : σ → Prop}

/-- Grading with each question that is graded written down after the earlier ones. -/
def observed (grade : Question → StateM σ (Record α)) (q : Question) :
    StateM (σ × List Question) (Record α) :=
  fun s =>
    let (r, state) := grade q s.1
    (r, (state, s.2 ++ [q]))

/-- The questions that no worker has taken yet, with their places. -/
def waiting (pool : Pool α) : List (Nat × Question) := pool.workers.flatMap (·.waiting)

/-- The records that were made, handed in or not, with the places of their questions. -/
def graded (pool : Pool α) : List (Nat × Record α) :=
  pool.records ++ pool.workers.flatMap (·.finished.toList)

/-- How many steps a worker still has to make. -/
def stepsLeft (pool : Pool α) (w : Nat) : Nat :=
  match pool.workers[w]? with
  | none => 0
  | some worker => 2 * worker.waiting.length + worker.finished.toList.length

/-- What a step of the worker `w` can do to a pool, and to the list of the questions graded so far.
-/
inductive Move (Graded : Question → Record α → Prop) (w : Nat) :
    Pool α → List Question → Pool α → List Question → Prop
  /-- The worker has nothing left to do. -/
  | rest {pool log} (nothing : pool.stepsLeft w = 0) : Move Graded w pool log pool log
  /-- The worker has its next question graded. -/
  | grade {pool log place q waiting r}
      (found : pool.workers[w]? = some ⟨(place, q) :: waiting, none⟩) (right : Graded q r) :
      Move Graded w pool log (pool.setWorker w ⟨waiting, some (place, r)⟩) (log ++ [q])
  /-- The worker hands its record in. -/
  | handIn {pool log waiting place r}
      (found : pool.workers[w]? = some ⟨waiting, some (place, r)⟩) :
      Move Graded w pool log ((pool.setWorker w ⟨waiting, none⟩).handIn place r) log

variable {Graded : Question → Record α → Prop} {w : Nat} {pool pool' : Pool α}
  {log log' : List Question} {questions : List Question}

/-- Every step is such a move, and it is the same step with the questions written down. -/
theorem step_move {grade : Question → StateM σ (Record α)}
    (grades : ∀ q, Ensures kept (grade q) (Graded q)) (pool : Pool α) (log : List Question)
    (w : Nat) {s : σ} (keeps : kept s) :
    ∃ pool' log' s', step grade pool w s = (pool', s') ∧
      step (observed grade) pool w (s, log) = (pool', (s', log')) ∧
      Move Graded w pool log pool' log' ∧ kept s' := by
  cases found : pool.workers[w]? with
  | none =>
      refine ⟨pool, log, s, ?_, ?_, .rest (by simp [stepsLeft, found]), keeps⟩
      all_goals
        simp only [step, found]
        rfl
  | some worker =>
      rcases worker with ⟨waiting, _ | ⟨place, r⟩⟩
      · rcases waiting with _ | ⟨⟨place, q⟩, waiting⟩
        · refine ⟨pool, log, s, ?_, ?_, .rest (by simp [stepsLeft, found]), keeps⟩
          all_goals
            simp only [step, found]
            rfl
        · obtain ⟨right, keeps⟩ := grades q s keeps
          refine ⟨_, _, (grade q s).2, ?_, ?_, .grade found right, keeps⟩
          all_goals
            simp only [step, found]
            rfl
      · refine ⟨_, log, s, ?_, ?_, .handIn found, keeps⟩
        all_goals
          simp only [step, found]
          rfl

/-! ## What is left to do -/

theorem stepsLeft_of_found {worker : Worker α} (found : pool.workers[w]? = some worker) :
    pool.stepsLeft w = 2 * worker.waiting.length + worker.finished.toList.length := by
  rw [stepsLeft, found]

theorem stepsLeft_setWorker {worker : Worker α} (found : pool.workers[w]? = some worker)
    (worker' : Worker α) (v : Nat) : (pool.setWorker w worker').stepsLeft v =
      if w = v then 2 * worker'.waiting.length + worker'.finished.toList.length
      else pool.stepsLeft v := by
  obtain ⟨known, -⟩ := List.getElem?_eq_some_iff.1 found
  by_cases same : w = v
  · subst same
    simp [stepsLeft, setWorker, known]
  · simp [stepsLeft, setWorker, same]

@[simp] theorem stepsLeft_handIn (pool : Pool α) (place : Nat) (r : Record α) (v : Nat) :
    (pool.handIn place r).stepsLeft v = pool.stepsLeft v := rfl

/-- A step takes one off what its worker has left, and nothing off the others. -/
theorem Move.stepsLeft (move : Move Graded w pool log pool' log') (v : Nat) :
    pool'.stepsLeft v = pool.stepsLeft v - if w = v then 1 else 0 := by
  by_cases same : w = v
  · subst same
    cases move with
    | rest nothing => simp [nothing]
    | grade found right => simp [stepsLeft_setWorker found, stepsLeft_of_found found, Nat.mul_add]
    | handIn found => simp [stepsLeft_setWorker found, stepsLeft_of_found found]
  · cases move with
    | rest nothing => simp [same]
    | grade found right => simp [stepsLeft_setWorker found, same]
    | handIn found => simp [stepsLeft_setWorker found, same]

theorem isDone_iff_stepsLeft (pool : Pool α) : pool.isDone ↔ ∀ w, pool.stepsLeft w = 0 := by
  have idle (worker : Worker α) : (worker.waiting.isEmpty && worker.finished.isNone) = true ↔
      2 * worker.waiting.length + worker.finished.toList.length = 0 := by
    rcases worker with ⟨_ | _, _ | _⟩ <;> simp
  simp only [isDone, List.all_eq_true, idle, Pool.stepsLeft]
  constructor
  · intro all w
    cases found : pool.workers[w]? with
    | none => rfl
    | some worker => exact all worker (List.mem_of_getElem? found)
  · intro all worker mem
    obtain ⟨w, found⟩ := List.mem_iff_getElem?.1 mem
    simpa only [found] using all w

/-! ## What every step keeps -/

/-- The questions are graded or wait, once each; the records are right, and the tally counts those
that were handed in. -/
structure Sound (Graded : Question → Record α → Prop) (questions : List Question) (pool : Pool α)
    (log : List Question) : Prop where
  asked : ((pool.graded.map fun p => (p.1, p.2.question)) ++ pool.waiting).Perm (places questions)
  right : ∀ p ∈ pool.graded, Graded p.2.question p.2
  logged : log.Perm (pool.graded.map (·.2.question))
  answered : pool.tally.answered = pool.records.countP (·.2.isAnswered)
  unanswered : pool.tally.unanswered = pool.records.countP (!·.2.isAnswered)

/-- What one member contributes can be told apart from what the others do. -/
theorem exists_flatMap_perm {l : List β} {a : β} (found : l[w]? = some a) (f : β → List γ) :
    ∃ others, (l.flatMap f).Perm (f a ++ others) ∧
      ∀ b, ((l.set w b).flatMap f).Perm (f b ++ others) := by
  obtain ⟨known, rfl⟩ := List.getElem?_eq_some_iff.1 found
  have swap (b : β) : ((l.set w b).flatMap f).Perm
      (f b ++ ((l.take w).flatMap f ++ (l.drop (w + 1)).flatMap f)) := by
    rw [List.set_eq_take_append_cons_drop, if_pos known, List.flatMap_append, List.flatMap_cons]
    exact List.perm_append_comm_assoc _ _ _
  have kept := swap l[w]
  rw [List.set_getElem_self] at kept
  exact ⟨_, kept, swap⟩

/-- A question that is taken waits no longer. -/
theorem waiting_setWorker {worker : Worker α} (found : pool.workers[w]? = some worker)
    (taken : List (Nat × Question)) {left : List (Nat × Question)}
    (splits : worker.waiting = taken ++ left)
    (finished : Option (Nat × Record α)) :
    pool.waiting.Perm (taken ++ (pool.setWorker w ⟨left, finished⟩).waiting) := by
  obtain ⟨others, before, after⟩ := exists_flatMap_perm found Worker.waiting
  refine before.trans ?_
  rw [splits, List.append_assoc]
  exact (after ⟨left, finished⟩).symm.append_left _

/-- A record that a worker has made counts among the records. -/
theorem graded_setWorker {worker : Worker α} (found : pool.workers[w]? = some worker)
    (waiting : List (Nat × Question)) (finished : Option (Nat × Record α)) :
    (worker.finished.toList ++ (pool.setWorker w ⟨waiting, finished⟩).graded).Perm
      (finished.toList ++ pool.graded) := by
  obtain ⟨others, before, after⟩ := exists_flatMap_perm found (·.finished.toList)
  have left := (after ⟨waiting, finished⟩).append_left pool.records
  have right := before.append_left pool.records
  refine (left.append_left _).trans (List.Perm.trans ?_ (right.symm.append_left _))
  refine ((List.perm_append_comm_assoc _ _ _).append_left _).trans ?_
  refine (List.perm_append_comm_assoc _ _ _).trans ?_
  exact (List.perm_append_comm_assoc _ _ _).append_left _

theorem Sound.move (asks : ∀ q r, Graded q r → r.question = q)
    (sound : Sound Graded questions pool log) (move : Move Graded w pool log pool' log') :
    Sound Graded questions pool' log' := by
  cases move with
  | rest => exact sound
  | @grade place q left r found right =>
      have taken := waiting_setWorker found [(place, q)] rfl (some (place, r))
      have made : (pool.setWorker w ⟨left, some (place, r)⟩).graded.Perm
          ((place, r) :: pool.graded) := graded_setWorker found left (some (place, r))
      have asked := asks q r right
      refine ⟨List.Perm.trans ?_ sound.asked, ?_, ?_, sound.answered, sound.unanswered⟩
      · refine ((made.map _).append_right _).trans (List.Perm.trans ?_ (taken.symm.append_left _))
        rw [List.map_cons, asked]
        exact List.perm_middle.symm
      · intro p mem
        rcases List.mem_cons.1 (made.subset mem) with rfl | mem
        · exact asked.symm ▸ right
        · exact sound.right p mem
      · refine (sound.logged.append_right _).trans (List.Perm.trans ?_ (made.map _).symm)
        rw [List.map_cons, asked]
        exact List.perm_append_comm
  | @handIn left place r found =>
      have same : ((pool.setWorker w ⟨left, none⟩).handIn place r).graded.Perm pool.graded :=
        graded_setWorker found left none
      have taken : pool.waiting.Perm ((pool.setWorker w ⟨left, none⟩).handIn place r).waiting :=
        waiting_setWorker found [] rfl none
      refine ⟨((same.map _).append taken.symm).trans sound.asked, ?_, ?_, ?_, ?_⟩
      · exact fun p mem => sound.right p (same.subset mem)
      · exact sound.logged.trans (same.map _).symm
      · have counted := sound.answered
        cases answered : r.isAnswered <;>
          simp [handIn, setWorker, Tally.add, answered, counted]
      · have counted := sound.unanswered
        cases answered : r.isAnswered <;>
          simp [handIn, setWorker, Tally.add, answered, counted]

theorem waiting_start {workers : Nat} (some : 0 < workers) (questions : List Question) :
    (start workers questions : Pool α).waiting.Perm (places questions) := by
  simpa [waiting, start, List.flatMap_map] using shares_perm some questions

theorem sound_start {workers : Nat} (some : 0 < workers) (questions : List Question) :
    Sound Graded questions (start workers questions) [] := by
  have none : ((start workers questions : Pool α).workers.flatMap (·.finished.toList)) = [] := by
    simp [start, List.flatMap_map]
  have all : (start workers questions : Pool α).waiting.Perm (places questions) :=
    waiting_start some questions
  have graded : (start workers questions : Pool α).graded = [] := by
    rw [Pool.graded, none]
    rfl
  exact ⟨by simpa [graded] using all, by simp [graded], by simp [graded], rfl, rfl⟩

/-! ## Runs -/

/-- Whatever the schedule, a run keeps a pool sound, each worker's steps are as many fewer as it
stands in the schedule, and the run is the same with the questions written down. -/
theorem run_sound {grade : Question → StateM σ (Record α)}
    (grades : ∀ q, Ensures kept (grade q) (Graded q))
    (asks : ∀ q r, Graded q r → r.question = q) (schedule : List Nat)
    (sound : Sound Graded questions pool log) {s : σ} (keeps : kept s) :
    ∃ pool' log' s', run grade schedule pool s = (pool', s') ∧
      run (observed grade) schedule pool (s, log) = (pool', (s', log')) ∧
      Sound Graded questions pool' log' ∧ kept s' ∧
      ∀ w, pool'.stepsLeft w = pool.stepsLeft w - schedule.count w := by
  induction schedule generalizing pool log s with
  | nil => exact ⟨pool, log, s, rfl, rfl, sound, keeps, fun w => rfl⟩
  | cons w schedule ih =>
      obtain ⟨pool₁, log₁, s₁, plain, written, move, keeps⟩ := step_move grades pool log w keeps
      obtain ⟨pool', log', s', plains, writtens, sound, keeps, left⟩ :=
        ih (sound.move asks move) keeps
      refine ⟨pool', log', s', ?_, ?_, sound, keeps, fun v => ?_⟩
      · rw [← plains]
        exact congrArg (fun p => run grade schedule p.1 p.2) plain
      · rw [← writtens]
        exact congrArg (fun p => run (observed grade) schedule p.1 p.2) written
      · rw [left, move.stepsLeft, List.count_cons]
        simp only [beq_iff_eq]
        omega

/-! ## What a run sees of grading -/

theorem mem_waiting {worker : Worker α} (found : pool.workers[w]? = some worker)
    {p : Nat × Question} (mem : p ∈ worker.waiting) : p ∈ pool.waiting :=
  List.mem_flatMap.2 ⟨worker, List.mem_of_getElem? found, mem⟩

/-- No step makes a question wait. -/
theorem Move.waiting_subset (move : Move Graded w pool log pool' log') :
    pool'.waiting ⊆ pool.waiting := by
  cases move with
  | rest => exact List.Subset.refl _
  | @grade place q left r found right =>
      have taken := waiting_setWorker found [(place, q)] rfl (some (place, r))
      exact fun p mem => taken.symm.subset (List.mem_append_right _ mem)
  | handIn found => exact (waiting_setWorker found [] rfl none).symm.subset

theorem step_congr {grade grade' : Question → StateM σ (Record α)}
    (same : ∀ p ∈ pool.waiting, grade p.2 = grade' p.2) (w : Nat) :
    step grade pool w = step grade' pool w := by
  cases found : pool.workers[w]? with
  | none => simp only [step, found]
  | some worker =>
      rcases worker with ⟨_ | ⟨⟨place, q⟩, left⟩, _ | finished⟩
      case cons.none =>
        have alike : grade q = grade' q := same _ (mem_waiting found List.mem_cons_self)
        simp only [step, found, alike]
      all_goals simp only [step, found]

/-- A run does not see how questions would be graded that do not wait. -/
theorem run_congr {grade grade' : Question → StateM σ (Record α)}
    (same : ∀ p ∈ pool.waiting, grade p.2 = grade' p.2) (schedule : List Nat) (s : σ) :
    run grade schedule pool s = run grade' schedule pool s := by
  induction schedule generalizing pool s with
  | nil => rfl
  | cons w schedule ih =>
      have grades (q : Question) : Ensures (fun _ => True) (grade q) fun _ => True :=
        fun _ _ => ⟨trivial, trivial⟩
      obtain ⟨pool', log, s', made, -, move, -⟩ := step_move grades pool [] w (s := s) trivial
      have rest := ih (fun p mem => same p (move.waiting_subset mem)) s'
      have made' := made
      rw [step_congr same] at made'
      have first := congrArg (fun p => run grade schedule p.1 p.2) made
      have first' := congrArg (fun p => run grade' schedule p.1 p.2) made'
      exact first.trans (rest.trans first'.symm)

/-! ## At the end -/

/-- When nothing is left to do, every question has its record handed in. -/
theorem eq_nil_of_isDone (done : pool.isDone) :
    pool.waiting = [] ∧ pool.graded = pool.records := by
  have idle (worker : Worker α) (mem : worker ∈ pool.workers) :
      worker.waiting = [] ∧ worker.finished = none := by
    simpa using List.all_eq_true.1 done worker mem
  constructor
  · exact List.flatMap_eq_nil_iff.2 fun worker mem => (idle worker mem).1
  · rw [graded, List.flatMap_eq_nil_iff.2 fun worker mem => by rw [(idle worker mem).2]; rfl,
      List.append_nil]

/-- Each question was graded once. -/
theorem Sound.log_perm (sound : Sound Graded questions pool log) (done : pool.isDone) :
    log.Perm questions := by
  have asked := sound.asked.map (·.2)
  rw [(eq_nil_of_isDone done).1, List.append_nil, List.map_map, map_snd_places] at asked
  exact sound.logged.trans asked

/-- The records in order are those that were handed in. -/
theorem inOrder_perm (pool : Pool α) : pool.inOrder.Perm (pool.records.map (·.2)) :=
  ((List.mergeSort_perm _ _).trans (List.reverse_perm _)).map _

/-- The order of the records is that of the questions, in whatever order they were handed in. -/
theorem Sound.questions_inOrder (sound : Sound Graded questions pool log) (done : pool.isDone) :
    pool.inOrder.map (·.question) = questions := by
  obtain ⟨nothing, all⟩ := eq_nil_of_isDone done
  let sorted := pool.records.reverse.mergeSort fun a b => a.1 ≤ b.1
  have sorted_perm : (sorted.map fun p => (p.1, p.2.question)).Perm (places questions) := by
    have asked := sound.asked
    rw [nothing, all, List.append_nil] at asked
    exact (((List.mergeSort_perm _ _).trans (List.reverse_perm _)).map _).trans asked
  have increasing : (sorted.map fun p => (p.1, p.2.question)).Pairwise (·.1 ≤ ·.1) := by
    have sorts : sorted.Pairwise fun a b => decide (a.1 ≤ b.1) :=
      List.pairwise_mergeSort
        (fun a b c ab bc => by simp only [decide_eq_true_eq] at *; omega)
        (fun a b => by simp only [Bool.or_eq_true, decide_eq_true_eq]; omega) pool.records.reverse
    exact List.pairwise_map.2 (sorts.imp fun le => of_decide_eq_true le)
  have increasing' := (places_pairwise questions).imp fun {a b} lt => Nat.le_of_lt lt
  have same : (sorted.map fun p => (p.1, p.2.question)) = places questions := by
    refine sorted_perm.eq_of_pairwise (fun a b mem mem' le le' => ?_) increasing increasing'
    exact eq_of_place (sorted_perm.subset mem) mem' (Nat.le_antisymm le le')
  have seconds := congrArg (List.map (·.2)) same
  rw [List.map_map, map_snd_places] at seconds
  rw [inOrder, List.map_map]
  exact seconds

theorem Sound.right_inOrder (sound : Sound Graded questions pool log) :
    ∀ r ∈ pool.inOrder, Graded r.question r := by
  intro r mem
  obtain ⟨p, among, rfl⟩ := List.mem_map.1 (pool.inOrder_perm.subset mem)
  exact sound.right p (List.mem_append_left _ among)

/-- The tally counts the records in order. -/
theorem Sound.tally_inOrder (sound : Sound Graded questions pool log) :
    pool.tally.answered = pool.inOrder.countP Record.isAnswered ∧
      pool.tally.unanswered = pool.inOrder.countP fun r => !r.isAnswered := by
  have counted (p : Record α → Bool) : pool.records.countP (p ·.2) = pool.inOrder.countP p := by
    rw [pool.inOrder_perm.countP_eq, List.countP_map]
    rfl
  exact ⟨sound.answered.trans (counted _), sound.unanswered.trans (counted fun r => !r.isAnswered)⟩

theorem Sound.tally_total (sound : Sound Graded questions pool log) (done : pool.isDone) :
    pool.tally.answered + pool.tally.unanswered = questions.length := by
  obtain ⟨answered, unanswered⟩ := sound.tally_inOrder
  rw [answered, unanswered, ← sound.questions_inOrder done, List.length_map]
  simpa using (List.length_eq_countP_add_countP Record.isAnswered (l := pool.inOrder)).symm

end SqlGrader.Pool
