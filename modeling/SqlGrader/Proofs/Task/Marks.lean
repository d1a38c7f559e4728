import SqlGrader.Proofs.Task.Cycle
import SqlGrader.Proofs.Task.Order
import SqlGrader.Proofs.Task.Registration
import SqlGrader.Task.Marks
/-!
# What the marks of a search say

At any time of a search the places in progress are those on its stack, and the places that are done
are those from which no cycle can be reached. So marks and stack show what the search of a plan
keeps in its two lists of names, and both searches find the same cycle or none. In particular a
place in progress is always found on the stack, so no visit breaks off without a cycle.
-/

namespace SqlGrader.Registry

variable {m : Type → Type} {V : Type} {r : Registry m V} {s s' : Search} {fuel place : Nat}
  {stack done : List String} {name : String}

/-! ### Places and their names -/

theorem nameAt_eq_getD (r : Registry m V) (place : Nat) :
    r.nameAt place = (r.plan.names[place]?).getD "" := by
  simp only [nameAt, plan, Plan.names, List.getElem?_map]
  cases r.tasks[place]? <;> rfl

theorem nameAt_eq (there : r.plan.names[place]? = some name) : r.nameAt place = name := by
  rw [nameAt_eq_getD, there, Option.getD_some]

theorem dependenciesAt_eq (indexed : Indexed r) (there : r.plan.names[place]? = some name) :
    r.dependenciesAt place = r.plan.dependenciesOf name := by
  simp only [plan, Plan.names, List.getElem?_map, Option.map_eq_some_iff] at there
  obtain ⟨_, ⟨t, found, rfl⟩, rfl⟩ := there
  have mem : t.spec ∈ r.plan := List.mem_map.2 ⟨t, List.mem_of_getElem? found, rfl⟩
  simp [dependenciesAt, found, Plan.dependenciesOf_of_mem indexed.nodup mem]

theorem place?_eq_none (indexed : Indexed r) : r.place? name = none ↔ ¬ r.plan.declares name := by
  rw [Plan.declares_iff, ← indexed.knows_iff, knows, place?]
  simp

theorem knows_eq_declares (indexed : Indexed r) (name : String) :
    r.knows name = r.plan.declares name := by
  rw [Bool.eq_iff_iff, indexed.knows_iff, Plan.declares_iff]

theorem length_names (r : Registry m V) : r.plan.names.length = r.tasks.length := by
  simp [plan, Plan.names]

/-! ### Marks -/

theorem Search.mark_enter (s : Search) (place other : Nat) :
    (s.enter place).mark other =
      if place = other ∧ place < s.marks.length then .inProgress else s.mark other := by
  simp only [Search.mark, Search.enter, List.getD_eq_getElem?_getD, List.getElem?_set]
  grind

theorem Search.mark_leave (s : Search) (place other : Nat) :
    (s.leave place).mark other = if place = other then .done else s.mark other := by
  simp only [Search.mark, Search.leave, List.getD_eq_getElem?_getD, List.getElem?_set]
  grind

/-- Whether the marks and the stack of a search are those of the names on the way of a search of the
plan, the last one first, and of the names that are done. -/
structure Reflects (r : Registry m V) (s : Search) (stack done : List String) : Prop where
  marked : s.marks.length = r.tasks.length
  way : s.stack.map (r.plan.names[·]?) = stack.reverse.map some
  inProgress : ∀ place name, r.plan.names[place]? = some name →
    (s.mark place = .inProgress ↔ name ∈ stack)
  done : ∀ place name, r.plan.names[place]? = some name → (s.mark place = .done ↔ name ∈ done)

theorem reflects_start (r : Registry m V) : Reflects r (.start r.tasks.length) [] [] where
  marked := by simp [Search.start]
  way := rfl
  inProgress := by
    intro place name there
    have inside := (List.getElem?_eq_some_iff.1 there).1
    rw [length_names] at inside
    simp [Search.mark, Search.start, inside]
  done := by
    intro place name there
    have inside := (List.getElem?_eq_some_iff.1 there).1
    rw [length_names] at inside
    simp [Search.mark, Search.start, inside]

/-- No two places have one name. -/
theorem Indexed.place_eq_iff (indexed : Indexed r) {other : Nat} {name' : String}
    (there : r.plan.names[place]? = some name) (here : r.plan.names[other]? = some name') :
    place = other ↔ name' = name := by
  obtain ⟨inside, rfl⟩ := List.getElem?_eq_some_iff.1 there
  obtain ⟨inside', rfl⟩ := List.getElem?_eq_some_iff.1 here
  rw [indexed.nodup.getElem_inj_iff]
  exact eq_comm

namespace Reflects

/-- A name that is neither on the way nor done has not been visited. -/
theorem unvisited_iff (reflects : Reflects r s stack done)
    (there : r.plan.names[place]? = some name) :
    s.mark place = .unvisited ↔ name ∉ stack ∧ name ∉ done := by
  rw [← reflects.inProgress place name there, ← reflects.done place name there]
  cases s.mark place <;> simp

theorem enter (indexed : Indexed r) (reflects : Reflects r s stack done)
    (there : r.plan.names[place]? = some name) (fresh : name ∉ done) :
    Reflects r (s.enter place) (name :: stack) done where
  marked := by simp [Search.enter, reflects.marked]
  way := by simp [Search.enter, there, reflects.way]
  inProgress := by
    intro other name' here
    have inside := (List.getElem?_eq_some_iff.1 there).1
    rw [length_names, ← reflects.marked] at inside
    have before := reflects.inProgress other name' here
    rw [Search.mark_enter, List.mem_cons, ← indexed.place_eq_iff there here, ← before]
    by_cases same : place = other
    · subst same
      simp [inside]
    · simp [same]
  done := by
    intro other name' here
    have before := reflects.done other name' here
    rw [Search.mark_enter, ← before]
    split
    next same =>
      obtain rfl := (indexed.place_eq_iff there here).1 same.1
      simp [before, fresh]
    next => rfl

theorem leave (indexed : Indexed r) (reflects : Reflects r s (name :: stack) done)
    (there : r.plan.names[place]? = some name) (nodup : (name :: stack).Nodup) :
    Reflects r (s.leave place) stack (name :: done) where
  marked := by simp [Search.leave, reflects.marked]
  way := by
    have way := congrArg List.dropLast reflects.way
    rwa [← List.map_dropLast, ← List.map_dropLast, List.reverse_cons, List.dropLast_concat] at way
  inProgress := by
    intro other name' here
    have before := reflects.inProgress other name' here
    rw [Search.mark_leave]
    split
    next same =>
      obtain rfl := (indexed.place_eq_iff there here).1 same
      simpa using (List.nodup_cons.1 nodup).1
    next different =>
      rw [before, List.mem_cons, ← indexed.place_eq_iff there here]
      simp [different]
  done := by
    intro other name' here
    have before := reflects.done other name' here
    rw [Search.mark_leave, List.mem_cons, ← indexed.place_eq_iff there here, ← before]
    split <;> simp_all

theorem names_way (reflects : Reflects r s stack done) :
    stack = (s.stack.map r.nameAt).reverse := by
  have names := congrArg (fun names => (names.map fun name? => name?.getD "").reverse) reflects.way
  simpa [Function.comp_def, ← nameAt_eq_getD] using names.symm

/-- A name on the way is found on the stack, and the way from there on closes a cycle. -/
theorem wayFrom?_eq (indexed : Indexed r) (reflects : Reflects r s stack done)
    (there : r.plan.names[place]? = some name) (nodup : stack.Nodup) (mem : name ∈ stack) :
    r.wayFrom? s.stack place = some (Plan.closedPath name stack) := by
  have onStack : place ∈ s.stack := by
    have named : some name ∈ s.stack.map (r.plan.names[·]?) := by
      simpa [reflects.way] using mem
    obtain ⟨other, mem', here⟩ := List.mem_map.1 named
    rwa [(indexed.place_eq_iff there here).2 rfl]
  obtain ⟨before, after, whole, first⟩ := List.eq_append_cons_of_mem onStack
  have start : s.stack.idxOf? place = some before.length := by
    rw [List.idxOf?_eq_some_iff, whole]
    refine ⟨by simp, by simp, fun j short => ?_⟩
    rw [List.getElem_append_left short]
    exact ne_of_mem_of_not_mem (List.getElem_mem short) first
  have names : stack = (after.map r.nameAt).reverse ++ name :: (before.map r.nameAt).reverse := by
    have way := reflects.names_way
    rw [whole] at way
    simpa [nameAt_eq there] using way
  have later : name ∉ (after.map r.nameAt).reverse := by
    rw [names, List.nodup_append] at nodup
    exact fun mem => nodup.2.2 _ mem _ List.mem_cons_self rfl
  rw [wayFrom?, start, names, Plan.closedPath_append later, whole]
  simp [nameAt_eq there]

end Reflects

/-! ### Both searches -/

/-- What comes of the dependencies of a place says what comes of the names that they are. -/
inductive Passes (r : Registry m V) (stack : List String) :
    Except (List String) (List String) → Passage → Prop
  | through {s : Search} {done : List String} (reflects : Reflects r s stack done) :
      Passes r stack (.ok done) (.through s)
  | broken {s : Search} (path : List String) : Passes r stack (.error path) (.broken (some path) s)

/-- What comes of a visit to a place says what comes of its name. -/
inductive Visits (r : Registry m V) (stack : List String) :
    Except (List String) (List String) → Option (List String) × Search → Prop
  | done {s : Search} {done : List String} (reflects : Reflects r s stack done) :
      Visits r stack (.ok done) (none, s)
  | found {s : Search} (path : List String) : Visits r stack (.error path) (some path, s)

/-- The end of a visit says what comes of the name, if its dependencies are passed alike. -/
theorem Passes.close (indexed : Indexed r) {names : Except (List String) (List String)}
    {passage : Passage} (passes : Passes r (name :: stack) names passage)
    (there : r.plan.names[place]? = some name) (nodup : (name :: stack).Nodup) :
    Visits r stack (names.map (name :: ·)) (passage.close place) := by
  cases passes with
  | through reflects => exact .done (reflects.leave indexed there nodup)
  | broken path => exact .found path

/-- What is known of a visit that goes no deeper than `fuel`. -/
def VisitsAlike (r : Registry m V) (fuel : Nat) : Prop :=
  ∀ ⦃stack done : List String⦄ ⦃s : Search⦄ ⦃place : Nat⦄ ⦃name : String⦄,
    Plan.Stacked r.plan fuel stack → Reflects r s stack done →
      r.plan.names[place]? = some name → s.mark place = .unvisited →
        Visits r stack (Plan.search r.plan fuel stack done name) (r.visit place s)

/-- Dependencies are passed alike, if visits are alike. The induction is on the dependencies. -/
theorem pass_passes (ds : List String) (indexed : Indexed r) (one : VisitsAlike r fuel)
    (stacked : Plan.Stacked r.plan fuel stack) (reflects : Reflects r s stack done) :
    Passes r stack (Plan.searchAll r.plan fuel stack done ds) (r.pass ds s).1 := by
  induction ds generalizing done s with
  | nil =>
      rw [Plan.searchAll, pass_nil]
      exact .through reflects
  | cons d ds ih =>
      rw [Plan.searchAll, pass_cons]
      cases found : r.place? d with
      | none =>
          have undeclared := (place?_eq_none indexed).1 found
          have offStack : d ∉ stack := fun mem => undeclared (stacked.declared d mem)
          simpa [offStack, undeclared] using ih reflects
      | some place =>
          have there : r.plan.names[place]? = some d := (indexed.place d place).1 found
          have declared : r.plan.declares d := Plan.declares_iff.2 (List.mem_of_getElem? there)
          cases mark : s.mark place with
          | inProgress =>
              have onStack := (reflects.inProgress place d there).1 mark
              have way := reflects.wayFrom?_eq indexed there stacked.nodup onStack
              simpa [onStack, mark, way] using .broken _
          | done =>
              have finished := (reflects.done place d there).1 mark
              have offStack : d ∉ stack := by
                rw [← reflects.inProgress place d there, mark]
                simp
              simpa [offStack, finished, mark] using ih reflects
          | unvisited =>
              obtain ⟨offStack, undone⟩ := (reflects.unvisited_iff there).1 mark
              have visits := one stacked reflects there mark
              simp only [List.contains_eq_mem, offStack, undone, declared, mark, decide_false,
                Bool.not_true, Bool.or_false, Bool.false_eq_true, if_false]
              generalize Plan.search r.plan fuel stack done d = names at visits
              generalize r.visit place s = visited at visits
              cases visits with
              | done reflects' => exact ih reflects'
              | found path => exact .broken path

theorem search_succ (p : Plan) (fuel : Nat) (stack done : List String) (name : String) :
    Plan.search p (fuel + 1) stack done name =
      (Plan.searchAll p fuel (name :: stack) done (p.dependenciesOf name)).map (name :: ·) := by
  rw [Plan.search]
  cases Plan.searchAll p fuel (name :: stack) done (p.dependenciesOf name) <;> rfl

/-- Visits are alike. The induction is on the fuel, which never runs out. -/
theorem visit_visits (indexed : Indexed r) (fuel : Nat) : VisitsAlike r fuel := by
  induction fuel with
  | zero =>
      intro stack done s place name stacked reflects there fresh
      have declared := Plan.declares_iff.2 (List.mem_of_getElem? there)
      have offStack := ((reflects.unvisited_iff there).1 fresh).1
      exact absurd stacked (Plan.Stacked.fuel_ne_zero declared offStack)
  | succ fuel ih =>
      intro stack done s place name stacked reflects there fresh
      have declared := Plan.declares_iff.2 (List.mem_of_getElem? there)
      obtain ⟨offStack, undone⟩ := (reflects.unvisited_iff there).1 fresh
      have stacked' := stacked.push declared offStack
      have passes := pass_passes (r.plan.dependenciesOf name) indexed ih stacked'
        (reflects.enter indexed there undone)
      rw [visit, dependenciesAt_eq indexed there, search_succ]
      exact passes.close indexed there stacked'.nodup

/-- Visits to places find the cycle that a search from their names finds. No name is on the way
before a visit. -/
theorem searchFrom_eq (indexed : Indexed r) {places : List Nat} {names : List String}
    (there : List.Forall₂ (fun place name => r.plan.names[place]? = some name) places names)
    (stacked : Plan.Stacked r.plan fuel []) (reflects : Reflects r s [] done) :
    (∀ path, Plan.searchAll r.plan fuel [] done names = .error path →
        r.searchFrom places s = some path) ∧
      ∀ done', Plan.searchAll r.plan fuel [] done names = .ok done' →
        r.searchFrom places s = none := by
  induction there generalizing done s with
  | nil => simp [Plan.searchAll, searchFrom]
  | @cons place name places names there _ ih =>
      have declared := Plan.declares_iff.2 (List.mem_of_getElem? there)
      have unvisited := reflects.unvisited_iff there
      rw [Plan.searchAll, searchFrom]
      by_cases finished : name ∈ done
      · simpa [finished, unvisited] using ih reflects
      · have fresh : s.mark place = .unvisited := by simp [unvisited, finished]
        have visits := visit_visits indexed fuel stacked reflects there fresh
        simp only [List.contains_eq_mem, List.not_mem_nil, finished, declared, fresh, decide_false,
          Bool.not_true, Bool.or_false, Bool.false_eq_true, if_false, if_true]
        generalize Plan.search r.plan fuel [] done name = names' at visits
        generalize r.visit place s = visited at visits
        cases visits with
        | done reflects' => exact ih reflects'
        | found path =>
            refine ⟨fun path' same => ?_, fun done' same => ?_⟩
            · cases same
              rfl
            · cases same

/-- The search of a registry finds the cycle that the search of its plan finds. -/
theorem cycle?_eq (indexed : Indexed r) : r.cycle? = r.plan.cycle? := by
  have places : List.Forall₂ (fun place name => r.plan.names[place]? = some name)
      (List.range r.tasks.length) r.plan.names := by
    rw [← length_names]
    refine List.forall₂_iff_get.2 ⟨by simp, fun place inside inside' => ?_⟩
    simp
  have stacked : Plan.Stacked r.plan r.plan.length [] := ⟨List.nodup_nil, by simp, by simp⟩
  obtain ⟨found, none⟩ := searchFrom_eq indexed places stacked (reflects_start r)
  rw [cycle?, Plan.cycle?]
  cases searched : Plan.searchAll r.plan r.plan.length [] [] r.plan.names with
  | error path => exact found path searched
  | ok done => exact none done searched

theorem missingDependency?_eq (indexed : Indexed r) (t : TaskSpec) :
    r.missingDependency? t = r.plan.missingDependency? t := by
  rw [missingDependency?, Plan.missingDependency?]
  simp only [knows_eq_declares indexed]

theorem unknownDependency?_eq (indexed : Indexed r) :
    r.unknownDependency? = r.plan.unknownDependency? := by
  rw [unknownDependency?, Plan.unknownDependency?]
  simp only [plan, List.findSome?_map, Function.comp_def, missingDependency?_eq indexed]

/-- A registry is valid if its plan is, and invalid for the same reason. -/
theorem validate_eq (indexed : Indexed r) : r.validate = r.plan.validate := by
  cases missing : r.plan.unknownDependency? with
  | some e => simp only [validate, Plan.validate, unknownDependency?_eq indexed, missing]
  | none =>
      cases found : r.plan.cycle? <;>
        simp only [validate, Plan.validate, unknownDependency?_eq indexed, cycle?_eq indexed,
          missing, found]

end SqlGrader.Registry
