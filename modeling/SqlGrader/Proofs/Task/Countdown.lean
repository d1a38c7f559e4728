import SqlGrader.Proofs.Task.Marks
import SqlGrader.Task.Countdown
/-!
# What a count-down counts

At any time of a count-down the count of a task is the number of dependencies that it lists and that
have not been placed, repetitions included, and the tasks that are ready are those that have not
been placed while all of their dependencies have. So each round places the first waiting task that
is ready, which is how a plan is put into order.
-/

namespace SqlGrader.Plan

variable {placed : List String} {waiting front back rest : List TaskSpec} {t : TaskSpec}

/-- Tasks that wait for a dependency are passed over. -/
theorem takeReady?_append (wait : ∀ u ∈ front, ∃ d ∈ u.dependsOn, d ∉ placed)
    (ready : ∀ d ∈ t.dependsOn, d ∈ placed) :
    takeReady? placed (front ++ t :: back) = some (t, front ++ back) := by
  induction front with
  | nil =>
      have all : t.dependsOn.all placed.contains = true := by simpa using ready
      rw [List.nil_append, takeReady?, if_pos all]
      rfl
  | cons u us ih =>
      obtain ⟨here, later⟩ := List.forall_mem_cons.1 wait
      have waits : ¬ u.dependsOn.all placed.contains = true := by simpa using here
      rw [List.cons_append, takeReady?, if_neg waits, ih later]
      rfl

theorem placeFrom_of_none (none : takeReady? placed waiting = .none) :
    placeFrom placed waiting = [] := by
  rw [placeFrom]
  split
  next => rfl
  next some => cases none.symm.trans some

theorem placeFrom_of_some (some : takeReady? placed waiting = .some (t, rest)) :
    placeFrom placed waiting = t.name :: placeFrom (t.name :: placed) rest := by
  rw [placeFrom]
  split
  next none => cases none.symm.trans some
  next taken =>
    obtain ⟨rfl, rfl⟩ := Prod.mk.inj (Option.some.inj (taken.symm.trans some))
    rfl

end SqlGrader.Plan

namespace SqlGrader.Registry

variable {m : Type → Type} {V : Type} {r : Registry m V} {c : Countdown} {place k : Nat}
  {ps : List Nat} {name : String}

/-! ### Places that are ready -/

theorem mem_insertPlace : k ∈ insertPlace place ps ↔ k = place ∨ k ∈ ps := by
  induction ps with
  | nil => simp [insertPlace]
  | cons p ps ih =>
      rw [insertPlace]
      split
      · simp
      split
      next same => simp [same]
      next => simp only [List.mem_cons, ih, or_left_comm]

theorem sorted_insertPlace (sorted : ps.Pairwise (· < ·)) :
    (insertPlace place ps).Pairwise (· < ·) := by
  induction ps with
  | nil => simp [insertPlace]
  | cons p ps ih =>
      obtain ⟨above, sorted'⟩ := List.pairwise_cons.1 sorted
      rw [insertPlace]
      split
      next less =>
        refine List.pairwise_cons.2 ⟨fun q mem => ?_, sorted⟩
        rcases List.mem_cons.1 mem with rfl | mem
        · exact less
        · exact less.trans (above q mem)
      split
      · exact sorted
      next notLess other =>
        refine List.pairwise_cons.2 ⟨fun q mem => ?_, ih sorted'⟩
        rcases mem_insertPlace.1 mem with rfl | mem
        · omega
        · exact above q mem

/-! ### Ticks -/

namespace Countdown

theorem missingAt_tick (c : Countdown) (place k : Nat) :
    (c.tick place).missingAt k = c.missingAt k - if place = k then 1 else 0 := by
  simp only [missingAt, tick, List.getD_eq_getElem?_getD, List.getElem?_set]
  grind

theorem mem_ready_tick :
    k ∈ (c.tick place).ready ↔ k ∈ c.ready ∨ k = place ∧ c.missingAt place - 1 = 0 := by
  simp only [tick]
  split
  next zero => simp [mem_insertPlace, zero, or_comm]
  next some => simp [some]

/-- After several ticks each count is less by the number of ticks at its place. -/
theorem missingAt_foldl_tick (ps : List Nat) (c : Countdown) (k : Nat) :
    (ps.foldl tick c).missingAt k = c.missingAt k - ps.count k := by
  induction ps generalizing c with
  | nil => simp
  | cons p ps ih =>
      rw [List.foldl_cons, ih, missingAt_tick, List.count_cons]
      simp only [beq_iff_eq]
      omega

/-- A place gets ready if ticks leave nothing of its count. -/
theorem mem_ready_foldl_tick (ps : List Nat) (c : Countdown) (k : Nat) :
    k ∈ (ps.foldl tick c).ready ↔
      k ∈ c.ready ∨ k ∈ ps ∧ c.missingAt k - ps.count k = 0 := by
  induction ps generalizing c with
  | nil => simp
  | cons p ps ih =>
      have none : k ∉ ps → ps.count k = 0 := List.count_eq_zero_of_not_mem
      rw [List.foldl_cons, ih, mem_ready_tick, missingAt_tick, List.count_cons, List.mem_cons]
      by_cases here : k = p
      · subst here
        by_cases later : k ∈ ps
        · have drained : (c.missingAt k - 1 = 0 ∨ c.missingAt k - 1 - ps.count k = 0) ↔
              c.missingAt k - (ps.count k + 1) = 0 := by omega
          simp [later, or_assoc, drained]
        · simp [later, none later]
      · simp [here, Ne.symm here]

theorem sorted_foldl_tick (ps : List Nat) (sorted : c.ready.Pairwise (· < ·)) :
    (ps.foldl tick c).ready.Pairwise (· < ·) := by
  induction ps generalizing c with
  | nil => exact sorted
  | cons p ps ih =>
      refine ih ?_
      rw [tick]
      simp only
      split
      · exact sorted_insertPlace sorted
      · exact sorted

theorem placed_foldl_tick (ps : List Nat) (c : Countdown) :
    (ps.foldl tick c).placed = c.placed := by
  induction ps generalizing c with
  | nil => rfl
  | cons p ps ih => exact ih (c.tick p)

end Countdown

/-! ### Who lists a task -/

theorem count_replicate_zipIdx {α : Type} (f : α → Nat) (xs : List α) (start k : Nat) :
    ((xs.zipIdx start).flatMap fun x => List.replicate (f x.1) x.2).count k =
      if start ≤ k then (xs[k - start]?).elim 0 f else 0 := by
  induction xs generalizing start with
  | nil => simp
  | cons x xs ih =>
      rw [List.zipIdx_cons, List.flatMap_cons, List.count_append, ih, List.count_replicate]
      rcases Nat.lt_trichotomy start k with less | rfl | more
      · obtain ⟨n, rfl⟩ := Nat.exists_eq_add_of_lt less
        have next : start + n + 1 - start = n + 1 := by omega
        have next' : start + n + 1 - (start + 1) = n := by omega
        simp [next, next', less.ne, less.le]
      · simp
      · simp [more.ne', more, Nat.not_le.2, Nat.lt_succ_of_lt more]

/-- A task is among the dependents of a place as often as it lists the name of the place. -/
theorem count_dependentsAt (indexed : Indexed r) (there : r.plan.names[place]? = some name)
    {t : TaskSpec} (task : r.plan[k]? = some t) :
    (r.dependentsAt place).count k = t.dependsOn.count name := by
  have lists : (fun d => r.place? d == some place) = (· == name) := by
    funext d
    rw [Bool.eq_iff_iff, beq_iff_eq, beq_iff_eq, place?, indexed.place, there, Option.some_inj,
      eq_comm]
  simp only [plan, List.getElem?_map, Option.map_eq_some_iff] at task
  obtain ⟨u, found, rfl⟩ := task
  have counted := count_replicate_zipIdx (fun u : Task m V => u.spec.dependsOn.count name)
    r.tasks 0 k
  simp only [List.count, Nat.zero_le, if_true, Nat.sub_zero, found] at counted ⊢
  rw [dependentsAt, lists]
  exact counted

/-! ### Rounds -/

/-- What the counts say. -/
structure Counts (r : Registry m V) (c : Countdown) : Prop where
  missing : ∀ k t, r.plan[k]? = some t → c.missingAt k = t.dependsOn.countP (· ∉ c.placed)
  ready : ∀ k, k ∈ c.ready ↔
    ∃ t, r.plan[k]? = some t ∧ t.name ∉ c.placed ∧ ∀ d ∈ t.dependsOn, d ∈ c.placed
  sorted : c.ready.Pairwise (· < ·)
  /-- A task is not placed before its dependencies. -/
  closed : ∀ t ∈ r.plan, t.name ∈ c.placed → ∀ d ∈ t.dependsOn, d ∈ c.placed

theorem counts_countdown (r : Registry m V) : Counts r r.countdown where
  missing := by
    intro k t task
    simp only [plan, List.getElem?_map, Option.map_eq_some_iff] at task
    obtain ⟨u, found, rfl⟩ := task
    simp [countdown, Countdown.missingAt, found]
  ready := by
    intro k
    simp only [countdown, List.mem_map, List.mem_filter, Prod.exists, exists_eq_right,
      List.mem_zipIdx_iff_getElem?, plan, List.getElem?_map]
    cases r.tasks[k]? <;> simp [List.eq_nil_iff_forall_not_mem]
  sorted := by
    refine .sublist (List.filter_sublist.map _) ?_
    rw [List.zipIdx_map_snd]
    exact List.pairwise_lt_range'
  closed := by
    intro t _ placed
    cases placed

/-- The dependencies that are missing once `name` is placed are those that were missing before,
without as many as are listed under the name. -/
theorem countP_notMem_append {placed : List String} (fresh : name ∉ placed) (ds : List String) :
    ds.countP (· ∉ placed ++ [name]) = ds.countP (· ∉ placed) - ds.count name := by
  have parts : ds.countP (· ∉ placed ++ [name]) + ds.count name = ds.countP (· ∉ placed) := by
    induction ds with
    | nil => rfl
    | cons d ds ih =>
        rw [List.countP_cons, List.countP_cons, List.count_cons, ← ih]
        by_cases same : d = name
        · subst same
          simp [fresh]
          omega
        · simp [same]
          omega
  omega

theorem getElem?_names {p : Plan} {t : TaskSpec} (task : p[k]? = some t) :
    p.names[k]? = some t.name := by
  simp [Plan.names, task]

theorem eq_of_name (indexed : Indexed r) {t u : TaskSpec} (task : r.plan[k]? = some t)
    (task' : r.plan[place]? = some u) (same : t.name = u.name) : t = u := by
  obtain rfl := (indexed.place_eq_iff (getElem?_names task) (getElem?_names task')).2 same.symm
  exact Option.some.inj (task.symm.trans task')

theorem exists_of_mem_dependentsAt (mem : k ∈ r.dependentsAt place) :
    ∃ t, r.plan[k]? = some t := by
  obtain ⟨⟨t, k'⟩, listed, here⟩ := List.mem_flatMap.1 mem
  obtain rfl := (List.mem_replicate.1 here).2
  exact ⟨t.spec, by simp [plan, List.mem_zipIdx_iff_getElem?.1 listed]⟩

/-- The tasks that a round makes ready are those for which the placed task was the last dependency
that was missing. -/
theorem Counts.mem_dependentsAt_iff (indexed : Indexed r) (counts : Counts r c) {t : TaskSpec}
    (task : r.plan[place]? = some t) (fresh : t.name ∉ c.placed)
    (deps : ∀ d ∈ t.dependsOn, d ∈ c.placed) :
    k ∈ r.dependentsAt place ∧ c.missingAt k - (r.dependentsAt place).count k = 0 ↔
      ∃ u, r.plan[k]? = some u ∧ t.name ∈ u.dependsOn ∧ u.name ∉ c.placed ++ [t.name] ∧
        ∀ d ∈ u.dependsOn, d ∈ c.placed ++ [t.name] := by
  have there := getElem?_names task
  have none_missing : ∀ u : TaskSpec, u.dependsOn.countP (· ∉ c.placed ++ [t.name]) = 0 ↔
      ∀ d ∈ u.dependsOn, d ∈ c.placed ++ [t.name] := by
    intro u
    simp [List.countP_eq_zero, or_iff_not_imp_left]
  constructor
  · rintro ⟨listed, drained⟩
    obtain ⟨u, task'⟩ := exists_of_mem_dependentsAt listed
    rw [← List.count_pos_iff, count_dependentsAt indexed there task', List.count_pos_iff] at listed
    rw [count_dependentsAt indexed there task', counts.missing k u task',
      ← countP_notMem_append fresh, none_missing] at drained
    refine ⟨u, task', listed, fun placed => ?_, drained⟩
    rcases List.mem_append.1 placed with old | new
    · exact fresh (counts.closed u (List.mem_of_getElem? task') old _ listed)
    · obtain rfl := eq_of_name indexed task' task (List.mem_singleton.1 new)
      exact fresh (deps _ listed)
  · rintro ⟨u, task', listed, -, drained⟩
    rw [← none_missing, countP_notMem_append fresh] at drained
    rw [← List.count_pos_iff, count_dependentsAt indexed there task', List.count_pos_iff,
      counts.missing k u task']
    exact ⟨listed, drained⟩

/-- The places that are ready after a round are those of the tasks that have not been placed while
their dependencies have. -/
theorem Counts.ready_round_iff (indexed : Indexed r) (counts : Counts r c) {others : List Nat}
    (first : c.ready = place :: others) {t : TaskSpec} (task : r.plan[place]? = some t)
    (fresh : t.name ∉ c.placed) (deps : ∀ d ∈ t.dependsOn, d ∈ c.placed) :
    (k ∈ others ∨ k ∈ r.dependentsAt place ∧ c.missingAt k - (r.dependentsAt place).count k = 0) ↔
      ∃ u, r.plan[k]? = some u ∧ u.name ∉ c.placed ++ [t.name] ∧
        ∀ d ∈ u.dependsOn, d ∈ c.placed ++ [t.name] := by
  rw [counts.mem_dependentsAt_iff indexed task fresh deps]
  constructor
  · rintro (before | ⟨u, task', -, fresh', deps'⟩)
    · have sorted := counts.sorted
      rw [first] at sorted
      obtain ⟨u, task', fresh', deps'⟩ := (counts.ready k).1 (by simp [first, before])
      have other : place ≠ k := ((List.pairwise_cons.1 sorted).1 k before).ne
      rw [Ne, indexed.place_eq_iff (getElem?_names task) (getElem?_names task')] at other
      refine ⟨u, task', by simp [fresh', other], fun d dep => ?_⟩
      exact List.mem_append_left _ (deps' d dep)
    · exact ⟨u, task', fresh', deps'⟩
  · rintro ⟨u, task', fresh', deps'⟩
    -- Only a task that lists the placed one can have waited for it.
    by_cases listed : t.name ∈ u.dependsOn
    · exact .inr ⟨u, task', listed, fresh', deps'⟩
    · have old : ∀ d ∈ u.dependsOn, d ∈ c.placed := by
        intro d dep
        have other : d ≠ t.name := ne_of_mem_of_not_mem dep listed
        simpa [other] using deps' d dep
      have ready : k ∈ c.ready :=
        (counts.ready k).2 ⟨u, task', fun placed => fresh' (List.mem_append_left _ placed), old⟩
      rw [first] at ready
      rcases List.mem_cons.1 ready with rfl | later
      · obtain rfl := Option.some.inj (task.symm.trans task')
        exact absurd (List.mem_append_right _ (List.mem_singleton_self _)) fresh'
      · exact .inl later

/-- A round places the first task that is ready and keeps what the counts say. -/
theorem Counts.round? (indexed : Indexed r) (counts : Counts r c) {others : List Nat}
    (first : c.ready = place :: others) :
    ∃ t c', r.plan[place]? = some t ∧ t.name ∉ c.placed ∧ (∀ d ∈ t.dependsOn, d ∈ c.placed) ∧
      r.round? c = some c' ∧ c'.placed = c.placed ++ [t.name] ∧ Counts r c' := by
  obtain ⟨t, task, fresh, deps⟩ := (counts.ready place).1 (by simp [first])
  have there := getElem?_names task
  have sorted := counts.sorted
  rw [first] at sorted
  refine ⟨t, _, task, fresh, deps, by rw [Registry.round?, first], ?_, ?_⟩
  · rw [Countdown.placed_foldl_tick, nameAt_eq there]
  · rw [nameAt_eq there]
    exact {
      missing := by
        intro k u task'
        rw [Countdown.placed_foldl_tick, countP_notMem_append fresh, Countdown.missingAt_foldl_tick,
          count_dependentsAt indexed there task', ← counts.missing k u task']
        rfl
      ready := by
        intro k
        rw [Countdown.placed_foldl_tick, Countdown.mem_ready_foldl_tick]
        exact counts.ready_round_iff indexed first task fresh deps
      sorted := Countdown.sorted_foldl_tick _ (List.pairwise_cons.1 sorted).2
      closed := by
        intro u mem placed' d dep
        rw [Countdown.placed_foldl_tick] at placed' ⊢
        rcases List.mem_append.1 placed' with old | new
        · exact List.mem_append_left _ (counts.closed u mem old d dep)
        · obtain ⟨k, task'⟩ := List.mem_iff_getElem?.1 mem
          obtain rfl := eq_of_name indexed task' task (List.mem_singleton.1 new)
          exact List.mem_append_left _ (deps d dep) }

/-! ### Runs -/

/-- The tasks that have not been placed. -/
def waiting (r : Registry m V) (placed : List String) : List TaskSpec :=
  r.plan.filter fun t => t.name ∉ placed

/-- The first task that is ready is the first waiting task with all of its dependencies placed. -/
theorem Counts.takeReady? (indexed : Indexed r) (counts : Counts r c) {others : List Nat}
    (first : c.ready = place :: others) {t : TaskSpec} (task : r.plan[place]? = some t)
    {placed : List String} (same : ∀ d, d ∈ placed ↔ d ∈ c.placed) :
    Plan.takeReady? placed (waiting r c.placed) = some (t, waiting r (c.placed ++ [t.name])) := by
  obtain ⟨t', task', fresh, deps⟩ := (counts.ready place).1 (by simp [first])
  obtain rfl := Option.some.inj (task.symm.trans task')
  obtain ⟨inside, here⟩ := List.getElem?_eq_some_iff.1 task
  have whole : r.plan = r.plan.take place ++ t :: r.plan.drop (place + 1) := by
    rw [← here, ← List.drop_eq_getElem_cons, List.take_append_drop]
  have nodup := indexed.nodup
  rw [whole, Plan.names, List.map_append, List.map_cons, List.nodup_append, List.nodup_cons]
    at nodup
  obtain ⟨-, ⟨after, -⟩, before⟩ := nodup
  have front : (r.plan.take place).filter (fun u => u.name ∉ c.placed ++ [t.name]) =
      (r.plan.take place).filter fun u => u.name ∉ c.placed := by
    refine List.filter_congr fun u mem => ?_
    have other : u.name ≠ t.name := before _ (List.mem_map_of_mem mem) _ List.mem_cons_self
    simp [other]
  have back : (r.plan.drop (place + 1)).filter (fun u => u.name ∉ c.placed ++ [t.name]) =
      (r.plan.drop (place + 1)).filter fun u => u.name ∉ c.placed := by
    refine List.filter_congr fun u mem => ?_
    have other : u.name ≠ t.name := fun eq => after (eq ▸ List.mem_map_of_mem mem)
    simp [other]
  rw [waiting, waiting, whole, List.filter_append, List.filter_append, front,
    List.filter_cons_of_pos (by simpa using fresh), List.filter_cons_of_neg (by simp), back]
  refine Plan.takeReady?_append (fun u mem => ?_) fun d dep => (same d).2 (deps d dep)
  obtain ⟨early, fresh'⟩ := List.mem_filter.1 mem
  obtain ⟨k, task''⟩ := List.mem_iff_getElem?.1 early
  rw [List.getElem?_take] at task''
  split at task''
  next less =>
    by_contra all
    have ready : k ∈ c.ready := by
      refine (counts.ready k).2 ⟨u, task'', by simpa using fresh', fun d dep => ?_⟩
      by_contra absent
      exact all ⟨d, dep, mt (same d).1 absent⟩
    have sorted := counts.sorted
    rw [first] at ready sorted
    rcases List.mem_cons.1 ready with rfl | later
    · exact lt_irrefl _ less
    · exact absurd ((List.pairwise_cons.1 sorted).1 k later) less.not_gt
  next => cases task''

theorem Counts.takeReady?_eq_none (counts : Counts r c) (none : c.ready = [])
    {placed : List String} (same : ∀ d, d ∈ placed ↔ d ∈ c.placed) :
    Plan.takeReady? placed (waiting r c.placed) = .none := by
  refine Option.eq_none_iff_forall_not_mem.2 fun ⟨t, rest⟩ found => ?_
  obtain ⟨perm, deps⟩ := Plan.takeReady?_some found
  obtain ⟨mem, fresh⟩ := List.mem_filter.1 (perm.mem_iff.1 List.mem_cons_self)
  obtain ⟨k, task⟩ := List.mem_iff_getElem?.1 mem
  have ready : k ∈ c.ready :=
    (counts.ready k).2 ⟨t, task, by simpa using fresh, fun d dep => (same d).1 (deps d dep)⟩
  rw [none] at ready
  cases ready

/-- Where no task is ready a run has ended, and no task is placed in the order of the plan. -/
theorem Counts.run_of_stuck (counts : Counts r c) (none : c.ready = [])
    {placed : List String} (same : ∀ d, d ∈ placed ↔ d ∈ c.placed) (rounds : Nat) :
    r.run rounds c = c ∧ Plan.placeFrom placed (waiting r c.placed) = [] := by
  refine ⟨?_, Plan.placeFrom_of_none (counts.takeReady?_eq_none none same)⟩
  cases rounds with
  | zero => rfl
  | succ rounds => rw [Registry.run, Registry.round?, none]

/-- A run places the tasks that wait in the order of the plan, and ends when none is ready. The
induction is on the rounds. -/
theorem Counts.run (indexed : Indexed r) {rounds : Nat} (counts : Counts r c)
    {placed : List String} (same : ∀ d, d ∈ placed ↔ d ∈ c.placed)
    (enough : (waiting r c.placed).length ≤ rounds) :
    (r.run rounds c).placed = c.placed ++ Plan.placeFrom placed (waiting r c.placed) ∧
      (r.run rounds c).ready = [] := by
  induction rounds generalizing c placed with
  | zero =>
      cases first : c.ready with
      | nil =>
          obtain ⟨ended, none⟩ := counts.run_of_stuck first same 0
          rw [ended, none, List.append_nil]
          exact ⟨rfl, first⟩
      | cons place others =>
          obtain ⟨t, -, task, -⟩ := counts.round? indexed first
          have length := Plan.length_takeReady? (counts.takeReady? indexed first task same)
          omega
  | succ rounds ih =>
      cases first : c.ready with
      | nil =>
          obtain ⟨ended, none⟩ := counts.run_of_stuck first same (rounds + 1)
          rw [ended, none, List.append_nil]
          exact ⟨rfl, first⟩
      | cons place others =>
          obtain ⟨t, c', task, -, -, next, placed', counts'⟩ := counts.round? indexed first
          have taken := counts.takeReady? indexed first task same
          have length := Plan.length_takeReady? taken
          have same' : ∀ d, d ∈ t.name :: placed ↔ d ∈ c'.placed := by
            intro d
            rw [placed', List.mem_cons, List.mem_append, List.mem_singleton, same, or_comm]
          have rest := ih counts' same' (by rw [placed']; omega)
          rw [placed', List.append_assoc, List.singleton_append] at rest
          rw [Registry.run, next, Plan.placeFrom_of_some taken]
          exact rest

/-- The count-down of a registry places the tasks that are placed in the order of its plan, and goes
on until no task is ready. -/
theorem run_countdown (indexed : Indexed r) :
    (r.run r.tasks.length r.countdown).placed = Plan.placeFrom [] r.plan ∧
      (r.run r.tasks.length r.countdown).ready = [] := by
  have all : waiting r r.countdown.placed = r.plan := List.filter_eq_self.2 fun t _ => rfl
  have length : r.plan.length = r.tasks.length := List.length_map ..
  have enough : (waiting r r.countdown.placed).length ≤ r.tasks.length := by rw [all, length]
  have run := (counts_countdown r).run indexed (fun d => .rfl) enough
  rwa [all] at run

/-- The order of a registry is that of its plan. -/
theorem order_eq (indexed : Indexed r) : r.order = r.plan.order := by
  have length : r.plan.length = r.tasks.length := List.length_map ..
  cases valid : r.plan.validate with
  | error e => simp only [order, Plan.order, validate_eq indexed, valid]
  | ok =>
      simp only [order, Plan.order, validate_eq indexed, valid, (run_countdown indexed).1,
        cycle?_eq indexed, length]

end SqlGrader.Registry
