import SqlGrader.Proofs.Task.Countdown
/-!
# Histories of registration

After any history of calls, failed ones among them, the names of a registry differ, its index says
where each of them is and nothing else, and every task comes after its dependencies. So the
registry is valid, and its order is the order of registration. A call that fails changes nothing.

Adding tasks to a task graph one by one gives the same answers and the same tasks.
-/

namespace SqlGrader

/-! ### Plans in which every task comes after its dependencies -/

/-- Whether every dependency of a task is the name of a task before it. -/
def Plan.IsBuiltUp (p : Plan) : Prop :=
  ∀ front t back, p = front ++ t :: back → t.dependsOn ⊆ Plan.names front

namespace Plan

variable {p : Plan} {t : TaskSpec}

theorem isBuiltUp_nil : IsBuiltUp [] := by
  intro front t back whole
  simp at whole

theorem IsBuiltUp.append_singleton (built : IsBuiltUp p) (known : t.dependsOn ⊆ p.names) :
    IsBuiltUp (p ++ [t]) := by
  intro front u back whole
  rcases List.eq_nil_or_concat back with rfl | ⟨back, last, rfl⟩
  · obtain ⟨rfl, same⟩ := List.append_inj' whole rfl
    exact List.singleton_inj.1 same ▸ known
  · rw [List.concat_eq_append, ← List.cons_append, ← List.append_assoc] at whole
    exact built front u back (List.append_inj' whole rfl).1

/-- The place of a dependency is before the place of the task. -/
theorem IsBuiltUp.idxOf_lt (built : IsBuiltUp p) (nodup : p.names.Nodup) (mem : t ∈ p)
    {d : String} (dep : d ∈ t.dependsOn) : p.names.idxOf d < p.names.idxOf t.name := by
  obtain ⟨front, back, rfl⟩ := List.append_of_mem mem
  have earlier : d ∈ Plan.names front := built front t back rfl dep
  have split : Plan.names (front ++ t :: back) = Plan.names front ++ t.name :: Plan.names back := by
    simp [names]
  rw [split] at nodup ⊢
  have fresh : t.name ∉ Plan.names front := fun taken =>
    (List.nodup_append.1 nodup).2.2 _ taken _ List.mem_cons_self rfl
  rw [List.idxOf_append_of_mem earlier, List.idxOf_append_of_notMem fresh, List.idxOf_cons_self]
  exact List.idxOf_lt_length_of_mem earlier

theorem IsBuiltUp.cycle?_eq_none (built : IsBuiltUp p) (nodup : p.names.Nodup) :
    p.cycle? = none := by
  refine cycle?_eq_none_of_rank p.names.idxOf fun a b dep => ?_
  cases found : p.task? a with
  | none => simp [dependenciesOf, found] at dep
  | some t =>
      have named : t.name = a := by simpa using List.find?_some found
      simp only [dependenciesOf, found] at dep
      exact named ▸ built.idxOf_lt nodup (List.mem_of_find?_eq_some found) dep

theorem IsBuiltUp.validate_ok (built : IsBuiltUp p) (nodup : p.names.Nodup) :
    p.validate = .ok () := by
  have declared : p.unknownDependency? = none := by
    refine List.findSome?_eq_none_iff.2 fun t mem => Option.map_eq_none_iff.2 ?_
    obtain ⟨front, back, whole⟩ := List.append_of_mem mem
    refine List.find?_eq_none.2 fun d dep => ?_
    have earlier : d ∈ Plan.names front := built front t back whole dep
    have named : d ∈ p.names := whole ▸ by simp [names] at earlier ⊢; exact .inl earlier
    simp [declares_iff.2 named]
  simp only [validate, declared, built.cycle?_eq_none nodup]

/-- Where the first waiting task is always ready, tasks are placed in the order in which they wait.
-/
theorem placeFrom_eq_names {placed : List String} {waiting : List TaskSpec}
    (ready : ∀ front t back, waiting = front ++ t :: back →
      ∀ d ∈ t.dependsOn, d ∈ placed ∨ d ∈ Plan.names front) :
    placeFrom placed waiting = Plan.names waiting := by
  induction waiting generalizing placed with
  | nil =>
      rw [placeFrom]
      rfl
  | cons t ts ih =>
      have first : takeReady? placed (t :: ts) = some (t, ts) := by
        have all : t.dependsOn.all placed.contains = true := by
          refine List.all_eq_true.2 fun d dep => ?_
          simpa [Plan.names] using ready [] t ts rfl d dep
        rw [takeReady?, if_pos all]
      rw [placeFrom]
      split
      next none => simp [first] at none
      next u rest some =>
        obtain ⟨rfl, rfl⟩ := Prod.mk.inj (Option.some.inj (first.symm.trans some))
        rw [ih fun front u back whole d dep => ?_]
        · rfl
        · have here := ready (t :: front) u back (by rw [whole, List.cons_append]) d dep
          rw [Plan.names, List.map_cons, List.mem_cons] at here
          rw [List.mem_cons]
          tauto

theorem IsBuiltUp.order_eq_names (built : IsBuiltUp p) (nodup : p.names.Nodup) :
    p.order = .ok p.names := by
  have placed : placeFrom [] p = p.names :=
    placeFrom_eq_names fun front t back whole d dep => .inr (built front t back whole dep)
  simp only [order, built.validate_ok nodup, placed, names, List.length_map, if_true]

end Plan

/-- The answers to a history of calls to a task graph, and the graph after it. -/
def TaskGraph.addAll {m : Type → Type} {V : Type} (g : TaskGraph m V) :
    List (Task m V) → List (Except PlanError Unit) × TaskGraph m V
  | [] => ([], g)
  | t :: ts =>
    match g.add t with
    | .ok h => (.ok () :: (addAll h ts).1, (addAll h ts).2)
    | .error e => (.error e :: (addAll g ts).1, (addAll g ts).2)

namespace Registry

variable {m : Type → Type} {V : Type} {r r' : Registry m V} {g : TaskGraph m V} {t : Task m V}

/-! ### Histories -/

/-- A registry as calls leave it, whether they fail or not. -/
structure Sound (r : Registry m V) : Prop where
  indexed : Indexed r
  built : r.plan.IsBuiltUp

theorem sound_empty (name : String) : Sound (empty name : Registry m V) :=
  ⟨indexed_empty name, Plan.isBuiltUp_nil⟩

theorem Sound.adds {answer : Except PlanError Unit} (sound : Sound r)
    (adds : Adds r t (answer, r')) : Sound r' := by
  cases adds with
  | accepted fresh known =>
      exact ⟨sound.indexed.append fresh, plan_append r t ▸ sound.built.append_singleton known⟩
  | duplicate taken => exact sound
  | unknown fresh split registered missing => exact sound

theorem run_addAll_cons (t : Task m V) (ts : List (Task m V)) (r : Registry m V) :
    (addAll (t :: ts)).run r =
      (((add t).run r).1 :: ((addAll ts).run ((add t).run r).2).1,
        ((addAll ts).run ((add t).run r).2).2) := by
  rw [addAll, List.mapM_cons]
  rfl

/-- A history keeps a registry sound. The induction is on the calls. -/
theorem Sound.addAll (ts : List (Task m V)) (sound : Sound r) :
    Sound ((addAll ts).run r).2 := by
  induction ts generalizing r with
  | nil => exact sound
  | cons t ts ih =>
      rw [run_addAll_cons]
      exact ih (sound.adds (add_adds sound.indexed t))

/-- The tasks whose calls were answered without an error. -/
def accepted (ts : List (Task m V)) (answers : List (Except PlanError Unit)) : List (Task m V) :=
  (ts.zip answers).filterMap fun p => if p.2.isOk then some p.1 else none

/-- The tasks of a registry are those that were accepted, in the order of the calls. -/
theorem tasks_addAll (ts : List (Task m V)) (indexed : Indexed r) :
    ((addAll ts).run r).2.tasks = r.tasks ++ accepted ts ((addAll ts).run r).1 := by
  induction ts generalizing r with
  | nil => exact (List.append_nil _).symm
  | cons t ts ih =>
      rw [run_addAll_cons, accepted, List.zip_cons_cons]
      cases run : (add t).run r with
      | mk answer r' =>
          have adds := add_adds indexed t
          rw [run] at adds
          cases adds with
          | accepted fresh known =>
              refine (ih (indexed.append fresh)).trans ?_
              rw [append, List.append_assoc]
              rfl
          | duplicate taken => exact ih indexed
          | unknown fresh split registered missing => exact ih indexed

theorem addAll_mirrors (ts : List (Task m V)) (indexed : Indexed r) (same : r.tasks = g.tasks) :
    ((addAll ts).run r).1 = (g.addAll ts).1 ∧
      ((addAll ts).run r).2.tasks = (g.addAll ts).2.tasks := by
  induction ts generalizing r g with
  | nil => exact ⟨rfl, same⟩
  | cons t ts ih =>
      have mirrors := add_mirrors indexed same t
      have adds := add_adds indexed t
      rw [run_addAll_cons, TaskGraph.addAll]
      cases run : (add t).run r with
      | mk answer r' =>
          rw [run] at mirrors adds
          cases adds with
          | accepted fresh known =>
              obtain ⟨h, added, same'⟩ := mirrors.of_ok
              obtain ⟨answers, tasks⟩ := ih (indexed.append fresh) same'
              rw [added]
              exact ⟨congrArg _ answers, tasks⟩
          | duplicate taken =>
              obtain ⟨answers, tasks⟩ := ih indexed same
              rw [mirrors.of_error]
              exact ⟨congrArg _ answers, tasks⟩
          | unknown fresh split registered missing =>
              obtain ⟨answers, tasks⟩ := ih indexed same
              rw [mirrors.of_error]
              exact ⟨congrArg _ answers, tasks⟩

/-! ### All of it -/

/-- What is true after a history of calls to an empty registry, with the answers to the calls. -/
structure Registered (name : String) (ts : List (Task m V)) (answers : List (Except PlanError Unit))
    (r : Registry m V) : Prop extends Sound r where
  valid : r.validate = .ok ()
  order : r.order = .ok r.plan.names
  kept : r.tasks = accepted ts answers
  /-- What one more call does. One that fails leaves the registry. -/
  next : ∀ t, Adds r t ((add t).run r)
  graph : answers = ((TaskGraph.empty name).addAll ts).1 ∧
    r.tasks = ((TaskGraph.empty name).addAll ts).2.tasks

theorem addAll_registered (name : String) (ts : List (Task m V)) :
    Registered name ts ((addAll ts).run (empty name)).1 ((addAll ts).run (empty name)).2 := by
  have sound := (sound_empty name).addAll ts
  exact {
    toSound := sound
    valid := (validate_eq sound.indexed).trans (sound.built.validate_ok sound.indexed.nodup)
    order := (order_eq sound.indexed).trans (sound.built.order_eq_names sound.indexed.nodup)
    kept := tasks_addAll ts (indexed_empty name)
    next := add_adds sound.indexed
    graph := addAll_mirrors ts (indexed_empty name) rfl }

/-- Any history of calls leaves a registry whose index is right, which is valid, and whose order is
the order of registration. Tasks in any order make a registry if their names differ, and then its
index is right too. Task graphs are made alike. -/
theorem registration_keeps_order (name : String) (ts : List (Task m V)) :
    Registered name ts ((addAll ts).run (empty name)).1 ((addAll ts).run (empty name)).2 ∧
      ((∃ r, ofTasks name ts = .ok r) ↔ (ts.map (·.spec.name)).Nodup) ∧
      (∀ r, ofTasks name ts = .ok r → Indexed r ∧ r.tasks = ts) ∧
      (ofTasks name ts).map (·.tasks) = (TaskGraph.ofTasks name ts).map (·.tasks) := by
  refine ⟨addAll_registered name ts, ?_⟩
  rcases run_insertAll ts (indexed_empty name) with
    ⟨r, run, indexed, tasks, nodup⟩ | ⟨e, r, run, repeated⟩
  · have made : ofTasks name ts = .ok r := by rw [ofTasks, run]
    refine ⟨⟨fun _ => nodup, fun _ => ⟨r, made⟩⟩, ?_, ofTasks_mirrors name ts⟩
    intro r' made'
    obtain rfl := Except.ok.inj (made.symm.trans made')
    exact ⟨indexed, tasks⟩
  · have failed : ofTasks name ts = .error e := by rw [ofTasks, run]
    refine ⟨⟨?_, fun nodup => absurd nodup repeated⟩, ?_, ofTasks_mirrors name ts⟩
    · rintro ⟨r', made⟩
      rw [failed] at made
      cases made
    · intro r' made
      rw [failed] at made
      cases made

end Registry

end SqlGrader
