import SqlGrader.Task.Registry
/-!
# Searching a registry for cycles

A search goes along dependencies from place to place. It marks a place when it enters it and again
when it leaves it, and keeps the places on its way on a stack. A dependency on a place that is in
progress closes a cycle; a place that is done is not entered again.

The marks and the stack are changed in place, by visits within visits. A visit that breaks off
leaves them as they are then: it takes its place neither off the stack nor from those in progress.
A search ends since every visit marks a place that had not been visited, which `Search.left` counts.
-/

namespace SqlGrader.Registry

/-- How far a search is with a place. -/
inductive Mark
  | unvisited
  | inProgress
  | done
  deriving Repr, DecidableEq

/-- The marks of the places, and the places on the way of a search, the first one first. -/
structure Search where
  marks : List Mark
  stack : List Nat
  deriving Repr, DecidableEq

namespace Search

/-- The mark of a place; one that does not exist is done. -/
def mark (s : Search) (place : Nat) : Mark := s.marks.getD place .done

/-- The number of places that have not been visited. -/
def left (s : Search) : Nat := s.marks.count .unvisited

/-- The search before its first visit to any of `count` places. -/
def start (count : Nat) : Search := ⟨List.replicate count .unvisited, []⟩

def enter (s : Search) (place : Nat) : Search :=
  ⟨s.marks.set place .inProgress, s.stack ++ [place]⟩

def leave (s : Search) (place : Nat) : Search := ⟨s.marks.set place .done, s.stack.dropLast⟩

theorem left_enter_lt {s : Search} {place : Nat} (fresh : s.mark place = .unvisited) :
    (s.enter place).left < s.left := by
  rw [mark, List.getD_eq_getElem?_getD] at fresh
  by_cases inside : place < s.marks.length
  · rw [List.getElem?_eq_getElem inside, Option.getD_some] at fresh
    have there : Mark.unvisited ∈ s.marks := fresh ▸ List.getElem_mem inside
    have counted : 0 < s.marks.count .unvisited := List.count_pos_iff.2 there
    simp only [left, enter, List.count_set inside, fresh, beq_self_eq_true, if_true]
    simp only [show (Mark.inProgress == Mark.unvisited) = false from rfl, Bool.false_eq_true,
      if_false]
    omega
  · rw [List.getElem?_eq_none (Nat.not_lt.1 inside)] at fresh
    cases fresh

theorem left_leave_le (s : Search) (place : Nat) : (s.leave place).left ≤ s.left := by
  by_cases inside : place < s.marks.length
  · simp only [left, leave, List.count_set inside]
    simp
  · simp [left, leave, List.set_eq_of_length_le (Nat.not_lt.1 inside)]

end Search

/-- What comes of going along the dependencies of a place. -/
inductive Passage
  /-- All of them have been passed. -/
  | through (s : Search)
  /-- The visit breaks off, with a cycle or without one. -/
  | broken (cycle : Option (List String)) (s : Search)
  deriving Repr, DecidableEq

namespace Passage

def after : Passage → Search
  | through s => s
  | broken _ s => s

/-- The end of the visit to a place whose dependencies the passage goes along: the cycle that is
found, and the search from there on. -/
def close (place : Nat) : Passage → Option (List String) × Search
  | through s => (none, s.leave place)
  | broken cycle s => (cycle, s)

theorem left_close_le (place : Nat) (p : Passage) : (p.close place).2.left ≤ p.after.left := by
  cases p with
  | through s => exact s.left_leave_le place
  | broken cycle s => exact Nat.le_refl _

end Passage

variable {m : Type → Type} {V : Type}

/-- The place that the index has under the name. -/
def place? (r : Registry m V) (name : String) : Option Nat := Keyed.get? name r.index

/-- The name of the task at a place. -/
def nameAt (r : Registry m V) (place : Nat) : String :=
  (r.tasks[place]?).elim "" fun t => t.spec.name

/-- What the task at a place depends on. -/
def dependenciesAt (r : Registry m V) (place : Nat) : List String :=
  (r.tasks[place]?).elim [] fun t => t.spec.dependsOn

/-- The names along the stack from a place that is on it, and the name of the place again. -/
def wayFrom? (r : Registry m V) (stack : List Nat) (place : Nat) : Option (List String) :=
  (stack.idxOf? place).map fun start => (stack.drop start).map r.nameAt ++ [r.nameAt place]

/-- Goes along the dependencies of a place that a search has entered, with a visit to each of those
that have not been visited. -/
def pass (r : Registry m V) (dependencies : List String) (s : Search) :
    {p : Passage // p.after.left ≤ s.left} :=
  match dependencies with
  | [] => ⟨.through s, Nat.le_refl s.left⟩
  | d :: ds =>
    match r.place? d with
    | none => r.pass ds s
    | some place =>
      match fresh : s.mark place with
      | .inProgress => ⟨.broken (r.wayFrom? s.stack place) s, Nat.le_refl s.left⟩
      | .done => r.pass ds s
      | .unvisited =>
        have entered := Search.left_enter_lt fresh
        let inner := r.pass (r.dependenciesAt place) (s.enter place)
        have closed : (inner.1.close place).2.left < s.left :=
          Nat.lt_of_le_of_lt (Nat.le_trans (inner.1.left_close_le place) inner.2) entered
        match ended : inner.1.close place with
        | (some cycle, s') => ⟨.broken (some cycle) s', Nat.le_of_lt (by rwa [ended] at closed)⟩
        | (none, s') =>
          have less : s'.left < s.left := by rwa [ended] at closed
          let others := r.pass ds s'
          ⟨others.1, Nat.le_trans others.2 (Nat.le_of_lt less)⟩
termination_by (s.left, dependencies.length)

/-- The visit to a place that has not been visited: the cycle that it finds, if it finds one. -/
def visit (r : Registry m V) (place : Nat) (s : Search) : Option (List String) × Search :=
  (r.pass (r.dependenciesAt place) (s.enter place)).1.close place

/-- The first cycle that visits to the places find. -/
def searchFrom (r : Registry m V) : (places : List Nat) → Search → Option (List String)
  | [], _ => none
  | place :: places, s =>
    if s.mark place = .unvisited then
      match r.visit place s with
      | (some cycle, _) => some cycle
      | (none, s) => r.searchFrom places s
    else r.searchFrom places s

def cycle? (r : Registry m V) : Option (List String) :=
  r.searchFrom (List.range r.tasks.length) (.start r.tasks.length)

/-- The first task with a dependency that the index does not have, and the dependency. -/
def unknownDependency? (r : Registry m V) : Option PlanError :=
  r.tasks.findSome? fun t => (r.missingDependency? t.spec).map (.unknownDependency t.spec.name)

/-- Whether every dependency is registered and there is no cycle. -/
def validate (r : Registry m V) : Except PlanError Unit :=
  match r.unknownDependency? with
  | some e => .error e
  | none =>
    match r.cycle? with
    | some path => .error (.cycle path)
    | none => .ok ()

/-! ### One dependency at a time -/

variable {r : Registry m V} {d : String} {ds : List String} {s : Search}

theorem pass_nil : (r.pass [] s).1 = .through s := by
  rw [pass]

/-- A dependency is passed over, closes a cycle or is visited, in which case the search goes on
unless the visit has found a cycle. -/
theorem pass_cons :
    (r.pass (d :: ds) s).1 =
      match r.place? d with
      | none => (r.pass ds s).1
      | some place =>
        match s.mark place with
        | .inProgress => .broken (r.wayFrom? s.stack place) s
        | .done => (r.pass ds s).1
        | .unvisited =>
          match r.visit place s with
          | (some cycle, s') => .broken (some cycle) s'
          | (none, s') => (r.pass ds s').1 := by
  rw [pass]
  split
  next => rfl
  next place _ =>
    split
    next progress => simp only [progress]
    next finished => simp only [finished]
    next fresh =>
      simp only [fresh, visit]
      split
      next ended => simp only [ended]
      next ended => simp only [ended]

end SqlGrader.Registry
