import SqlGrader.Proofs.Keyed
import SqlGrader.Task.Registry
/-!
# Registration

The index of a registry says where each name is and nothing else. A call appends its task to both,
or it fails and changes nothing; and tasks in any order make a registry if their names differ. A
task graph, which has no index, gives the same answers and holds the same tasks.
-/

namespace SqlGrader

namespace Registry

variable {m : Type → Type} {V : Type} {r r' : Registry m V} {t : Task m V}

/-! ### The index -/

/-- Whether the index holds the place of each task under its name and nothing else, and no two tasks
have one name. -/
structure Indexed (r : Registry m V) : Prop where
  nodup : r.plan.names.Nodup
  entries : r.index.Perm r.plan.names.zipIdx
  place : ∀ name place, Keyed.get? name r.index = some place ↔ r.plan.names[place]? = some name

theorem names_index (perm : r.index.Perm r.plan.names.zipIdx) :
    (r.index.map (·.1)).Perm r.plan.names := by
  have names := perm.map (·.1)
  rwa [List.zipIdx_map_fst] at names

theorem indexed_of_perm (nodup : r.plan.names.Nodup) (perm : r.index.Perm r.plan.names.zipIdx) :
    Indexed r := by
  refine ⟨nodup, perm, fun name place => ?_⟩
  rw [Keyed.get?_eq_some_iff ((names_index perm).nodup_iff.2 nodup), perm.mem_iff,
    List.mem_zipIdx_iff_getElem?]

theorem Indexed.knows_iff (indexed : Indexed r) (name : String) :
    r.knows name = true ↔ name ∈ r.plan.names := by
  rw [knows, Option.isSome_iff_ne_none, ne_eq, Keyed.get?_eq_none_iff, not_not]
  exact (names_index indexed.entries).mem_iff

theorem indexed_empty (name : String) : Indexed (empty name : Registry m V) :=
  indexed_of_perm .nil (.refl _)

/-! ### What one call does -/

/-- The registry with a task at its end. -/
def append (r : Registry m V) (t : Task m V) : Registry m V :=
  ⟨r.name, r.tasks ++ [t], Keyed.insert t.spec.name r.tasks.length r.index⟩

theorem plan_append (r : Registry m V) (t : Task m V) : (r.append t).plan = r.plan ++ [t.spec] := by
  simp [plan, append]

/-- A task under a new name is appended to the index too. -/
theorem Indexed.append (indexed : Indexed r) (fresh : t.spec.name ∉ r.plan.names) :
    Indexed (r.append t) := by
  have names : (r.append t).plan.names = r.plan.names ++ [t.spec.name] := by
    simp [plan_append, Plan.names]
  have fresh' : t.spec.name ∉ r.index.map (·.1) := fun taken =>
    fresh ((names_index indexed.entries).mem_iff.1 taken)
  refine indexed_of_perm (names ▸ ?_) (names ▸ ?_)
  · exact (List.perm_append_singleton _ _).nodup_iff.2 (List.nodup_cons.2 ⟨fresh, indexed.nodup⟩)
  · have length : r.plan.names.length = r.tasks.length := by simp [plan, Plan.names]
    rw [List.zipIdx_append, List.zipIdx_singleton, Nat.zero_add, length]
    refine (Keyed.insert_perm_of_fresh fresh').trans ((indexed.entries.cons _).trans ?_)
    exact (List.perm_append_singleton _ _).symm

theorem run_insert (t : Task m V) (r : Registry m V) :
    (insert t).run r =
      if r.knows t.spec.name then (.error (.duplicateTask t.spec.name), r)
      else (.ok (), r.append t) := by
  unfold insert
  change (ite (r.knows t.spec.name = true) _ _ : Call m V Unit).run r = _
  split <;> rfl

theorem run_add (t : Task m V) (r : Registry m V) :
    (add t).run r =
      if r.knows t.spec.name then (.error (.duplicateTask t.spec.name), r)
      else match r.missingDependency? t.spec with
        | some d => (.error (.unknownDependency t.spec.name d), r)
        | none => (insert t).run r := by
  unfold add
  change (ite (r.knows t.spec.name = true) _ _ : Call m V Unit).run r = _
  split
  · rfl
  · change (match r.missingDependency? t.spec with
      | some d => throw (.unknownDependency t.spec.name d)
      | none => insert t : Call m V Unit).run r = _
    split <;> rfl

/-- What comes of registering a task. -/
inductive Adds (r : Registry m V) (t : Task m V) : Except PlanError Unit × Registry m V → Prop
  | accepted (fresh : t.spec.name ∉ r.plan.names) (known : t.spec.dependsOn ⊆ r.plan.names) :
      Adds r t (.ok (), r.append t)
  | duplicate (taken : t.spec.name ∈ r.plan.names) :
      Adds r t (.error (.duplicateTask t.spec.name), r)
  /-- The first dependency that is not registered is named. -/
  | unknown (fresh : t.spec.name ∉ r.plan.names) {known : List String} {d : String}
      {rest : List String} (split : t.spec.dependsOn = known ++ d :: rest)
      (registered : known ⊆ r.plan.names) (missing : d ∉ r.plan.names) :
      Adds r t (.error (.unknownDependency t.spec.name d), r)

theorem add_adds (indexed : Indexed r) (t : Task m V) : Adds r t ((add t).run r) := by
  rw [run_add]
  split
  next taken => exact .duplicate ((indexed.knows_iff _).1 taken)
  next free =>
    have fresh : t.spec.name ∉ r.plan.names := mt (indexed.knows_iff _).2 free
    split
    next d missing =>
      obtain ⟨unknown, known, rest, split, before⟩ := List.find?_eq_some_iff_append.1 missing
      refine .unknown fresh split (fun e mem => ?_) fun declared => ?_
      · exact (indexed.knows_iff e).1 (by simpa using before e mem)
      · simp [(indexed.knows_iff d).2 declared] at unknown
    next none =>
      rw [run_insert, if_neg free]
      refine .accepted fresh fun d dep => (indexed.knows_iff d).1 ?_
      simpa using List.find?_eq_none.1 none d dep

/-! ### Task graphs -/

variable {g : TaskGraph m V}

/-- A call to a registry and one to a task graph have the same answer and leave the same tasks. -/
inductive Mirrors : Except PlanError Unit × Registry m V → Except PlanError (TaskGraph m V) → Prop
  | ok {r : Registry m V} {g : TaskGraph m V} (same : r.tasks = g.tasks) :
      Mirrors (.ok (), r) (.ok g)
  | error {r : Registry m V} {e : PlanError} : Mirrors (.error e, r) (.error e)

theorem Mirrors.of_ok {x : Except PlanError (TaskGraph m V)} (mirrors : Mirrors (.ok (), r) x) :
    ∃ g, x = .ok g ∧ r.tasks = g.tasks := by
  cases mirrors with
  | ok same => exact ⟨_, rfl, same⟩

theorem Mirrors.of_error {x : Except PlanError (TaskGraph m V)} {e : PlanError}
    (mirrors : Mirrors (.error e, r) x) : x = .error e := by
  cases mirrors with
  | error => rfl

theorem knows_eq (indexed : Indexed r) (same : r.tasks = g.tasks) (name : String) :
    r.knows name = g.plan.declares name := by
  have plans : r.plan = g.plan := congrArg _ same
  rw [Bool.eq_iff_iff, indexed.knows_iff, Plan.declares_iff, plans]

theorem insert_mirrors (indexed : Indexed r) (same : r.tasks = g.tasks) (t : Task m V) :
    Mirrors ((insert t).run r) (g.push t) := by
  rw [run_insert, knows_eq indexed same, TaskGraph.push]
  split
  · exact .error
  · exact .ok (congrArg (· ++ [t]) same)

theorem add_mirrors (indexed : Indexed r) (same : r.tasks = g.tasks) (t : Task m V) :
    Mirrors ((add t).run r) (g.add t) := by
  have missing : r.missingDependency? t.spec = g.plan.missingDependency? t.spec :=
    congrArg (List.find? · t.spec.dependsOn) (funext fun d => by rw [knows_eq indexed same])
  rw [run_add, knows_eq indexed same, missing, TaskGraph.add]
  split
  · exact .error
  cases g.plan.missingDependency? t.spec with
  | some d => exact .error
  | none => exact insert_mirrors indexed same t

theorem run_insertAll_cons (t : Task m V) (ts : List (Task m V)) (r : Registry m V) :
    (insertAll (t :: ts)).run r =
      if r.knows t.spec.name then (.error (.duplicateTask t.spec.name), r)
      else (insertAll ts).run (r.append t) := by
  have inserted := run_insert t r
  change (insert t >>= fun _ => insertAll ts : Call m V Unit).run r = _
  rw [ExceptT.run_bind]
  split at inserted
  next taken =>
    rw [if_pos taken]
    simp only [bind, StateT.bind, inserted]
    rfl
  next free =>
    rw [if_neg free]
    simp only [bind, StateT.bind, inserted]

/-- Tasks are inserted if all names differ. The induction is on the tasks. -/
theorem run_insertAll (ts : List (Task m V)) (indexed : Indexed r) :
    (∃ r', (insertAll ts).run r = (.ok (), r') ∧ Indexed r' ∧ r'.tasks = r.tasks ++ ts ∧
        (r.plan.names ++ ts.map (·.spec.name)).Nodup) ∨
      ∃ e r', (insertAll ts).run r = (.error e, r') ∧
        ¬ (r.plan.names ++ ts.map (·.spec.name)).Nodup := by
  induction ts generalizing r with
  | nil => exact .inl ⟨r, rfl, indexed, by simp, by simpa using indexed.nodup⟩
  | cons t ts ih =>
      rw [run_insertAll_cons]
      split
      next taken =>
        refine .inr ⟨_, _, rfl, fun nodup => ?_⟩
        exact (List.nodup_append.1 nodup).2.2 _ ((indexed.knows_iff _).1 taken) _
          List.mem_cons_self rfl
      next free =>
        have names : (r.append t).plan.names ++ ts.map (·.spec.name) =
            r.plan.names ++ (t :: ts).map (·.spec.name) := by simp [plan_append, Plan.names]
        have tasks : (r.append t).tasks ++ ts = r.tasks ++ t :: ts := List.append_assoc _ _ _
        rw [← names, ← tasks]
        exact ih (indexed.append (mt (indexed.knows_iff _).2 free))

theorem insertAll_mirrors (ts : List (Task m V)) (indexed : Indexed r)
    (same : r.tasks = g.tasks) :
    Mirrors ((insertAll ts).run r) (ts.foldlM TaskGraph.push g) := by
  induction ts generalizing r g with
  | nil => exact .ok same
  | cons t ts ih =>
      have mirrors := insert_mirrors indexed same t
      rw [run_insert] at mirrors
      rw [run_insertAll_cons, List.foldlM_cons]
      split at mirrors
      next taken =>
        rw [if_pos taken, mirrors.of_error]
        exact .error
      next free =>
        obtain ⟨h, pushed, same'⟩ := mirrors.of_ok
        rw [if_neg free, pushed]
        exact ih (indexed.append (mt (indexed.knows_iff _).2 free)) same'

theorem ofTasks_mirrors (name : String) (ts : List (Task m V)) :
    (ofTasks name ts).map (·.tasks) = (TaskGraph.ofTasks name ts).map (·.tasks) := by
  have mirrors := insertAll_mirrors (g := TaskGraph.empty name) ts (indexed_empty name) rfl
  rw [ofTasks, TaskGraph.ofTasks]
  rcases run : (insertAll ts).run (empty name) with ⟨e | ⟨⟩, r⟩
  · rw [run] at mirrors
    rw [mirrors.of_error]
    rfl
  · rw [run] at mirrors
    obtain ⟨g, folded, same⟩ := mirrors.of_ok
    rw [folded]
    exact congrArg Except.ok same

theorem indexed_of_ofTasks {name : String} {ts : List (Task m V)}
    (made : ofTasks name ts = .ok r) : Indexed r ∧ r.tasks = ts := by
  rw [ofTasks] at made
  rcases run_insertAll ts (indexed_empty name) with
    ⟨r', run, indexed, tasks, -⟩ | ⟨e, r', run, -⟩
  · rw [run] at made
    obtain rfl := Except.ok.inj made
    exact ⟨indexed, tasks⟩
  · rw [run] at made
    cases made

/-- Tasks that make a registry make a task graph. -/
theorem exists_ofTasks {name : String} {ts : List (Task m V)} (made : ofTasks name ts = .ok r) :
    ∃ g, TaskGraph.ofTasks name ts = .ok g ∧ g.tasks = r.tasks := by
  have mirrors := ofTasks_mirrors name ts
  rw [made] at mirrors
  cases made' : TaskGraph.ofTasks name ts with
  | error e =>
      rw [made'] at mirrors
      cases mirrors
  | ok g =>
      rw [made'] at mirrors
      exact ⟨g, rfl, (Except.ok.inj mirrors).symm⟩

end Registry

end SqlGrader
