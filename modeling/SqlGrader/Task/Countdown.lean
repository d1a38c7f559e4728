import SqlGrader.Task.Marks
/-!
# Counting down dependencies

The order of a registry is found by counting. For each task it is counted how many of the
dependencies that it lists have not been placed; a task is ready when none is left. Of the tasks
that are ready the one registered first is placed next, and counts as placed wherever it is listed:
a task that lists it twice is counted down twice.

The count-down goes on as long as a task is ready. `run` takes the number of rounds, of which there
are no more than tasks.
-/

namespace SqlGrader.Registry

/-- How far the count-down is. -/
structure Countdown where
  /-- For each place, how many of the listed dependencies have not been placed. -/
  missing : List Nat
  /-- The places of the tasks that are ready, in increasing order. -/
  ready : List Nat
  /-- The names of the tasks that have been placed, in their order. -/
  placed : List String
  deriving Repr, DecidableEq

/-- Puts a place among places in increasing order, unless it is there already. -/
def insertPlace (place : Nat) : List Nat → List Nat
  | [] => [place]
  | p :: ps =>
    if place < p then place :: p :: ps
    else if place = p then p :: ps
    else p :: insertPlace place ps

/-- The count of a place. -/
def Countdown.missingAt (c : Countdown) (place : Nat) : Nat := c.missing.getD place 0

/-- One listed dependency of the task at a place has been placed. -/
def Countdown.tick (c : Countdown) (place : Nat) : Countdown :=
  let left := c.missingAt place - 1
  { c with
    missing := c.missing.set place left
    ready := if left = 0 then insertPlace place c.ready else c.ready }

variable {m : Type → Type} {V : Type}

/-- The places of the tasks that list the task at `place`, as often as they list it. -/
def dependentsAt (r : Registry m V) (place : Nat) : List Nat :=
  r.tasks.zipIdx.flatMap fun t =>
    List.replicate (t.1.spec.dependsOn.countP fun d => r.place? d == some place) t.2

/-- The count-down before anything is placed. -/
def countdown (r : Registry m V) : Countdown :=
  let missing := r.tasks.map fun t => t.spec.dependsOn.length
  let ready := (missing.zipIdx.filter fun count => count.1 == 0).map fun count => count.2
  ⟨missing, ready, []⟩

/-- Places the first task that is ready. -/
def round? (r : Registry m V) (c : Countdown) : Option Countdown :=
  match c.ready with
  | [] => none
  | place :: others =>
    let taken := { c with ready := others, placed := c.placed ++ [r.nameAt place] }
    some ((r.dependentsAt place).foldl Countdown.tick taken)

/-- Places tasks as long as one is ready, at most as many as there are rounds. -/
def run (r : Registry m V) : (rounds : Nat) → Countdown → Countdown
  | 0, c => c
  | rounds + 1, c =>
    match r.round? c with
    | none => c
    | some c => r.run rounds c

/-- The order in which the tasks are carried out. -/
def order (r : Registry m V) : Except PlanError (List String) :=
  match r.validate with
  | .error e => .error e
  | .ok () =>
    let placed := (r.run r.tasks.length r.countdown).placed
    if placed.length = r.tasks.length then .ok placed else .error (.cycle (r.cycle?.getD []))

end SqlGrader.Registry
