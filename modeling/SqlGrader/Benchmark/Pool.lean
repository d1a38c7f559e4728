import SqlGrader.Benchmark.Record
/-!
# Worker pools

Several workers share the questions of a benchmark: of `n` workers the one with the number `w`
takes the questions at the places `w`, `w + n`, `w + 2 n` and so on, one after the other. A worker
takes turns between two steps: it has its next question graded, and it hands the record in. Only
handing in touches what the workers have in common, the records so far and the tally.

A schedule says which worker makes each next step. At the end the records are put into the order of
the questions. `rounds` is a schedule that lets the workers finish, each in its turn.
-/

namespace SqlGrader

/-- What a worker still has to do. -/
structure Worker (α : Type) where
  /-- The questions that it will take, with their places. -/
  waiting : List (Nat × Question)
  /-- The record that it is about to hand in. -/
  finished : Option (Nat × Record α)

structure Pool (α : Type) where
  workers : List (Worker α)
  /-- The records that were handed in, with the places of their questions, the last one first. -/
  records : List (Nat × Record α)
  tally : Tally

namespace Pool

variable {α : Type}

/-- Every `stride`-th element of a list, of those that come after the first `skip`. -/
def strided (stride : Nat) : (skip : Nat) → List α → List α
  | _, [] => []
  | 0, a :: rest => a :: strided stride (stride - 1) rest
  | skip + 1, _ :: rest => strided stride skip rest

/-- The questions with their places. -/
def places (questions : List Question) : List (Nat × Question) :=
  questions.zipIdx.map fun q => (q.2, q.1)

/-- The places and questions that a worker takes. -/
def share (workers worker : Nat) (questions : List Question) : List (Nat × Question) :=
  strided workers worker (places questions)

/-- The pool before any step. -/
def start (workers : Nat) (questions : List Question) : Pool α where
  workers := (List.range workers).map fun w => ⟨share workers w questions, none⟩
  records := []
  tally := .zero

/-- Takes a record in. -/
def handIn (pool : Pool α) (place : Nat) (r : Record α) : Pool α :=
  { pool with records := (place, r) :: pool.records, tally := pool.tally.add r }

/-- Puts a worker into another state. -/
def setWorker (pool : Pool α) (w : Nat) (worker : Worker α) : Pool α :=
  { pool with workers := pool.workers.set w worker }

/-- Whether no worker has anything left to do. -/
def isDone (pool : Pool α) : Bool :=
  pool.workers.all fun w => w.waiting.isEmpty && w.finished.isNone

/-- The records in the order of the questions. -/
def inOrder (pool : Pool α) : List (Record α) :=
  (pool.records.reverse.mergeSort fun a b => a.1 ≤ b.1).map (·.2)

section Steps

variable {m : Type → Type} [Monad m]

/-- The next step of a worker. One that has nothing left to do, or is not there, changes nothing. -/
def step (grade : Question → m (Record α)) (pool : Pool α) (w : Nat) : m (Pool α) :=
  match pool.workers[w]? with
  | none => pure pool
  | some ⟨waiting, some (place, r)⟩ => pure ((pool.setWorker w ⟨waiting, none⟩).handIn place r)
  | some ⟨[], none⟩ => pure pool
  | some ⟨(place, q) :: waiting, none⟩ => do
    let r ← grade q
    pure (pool.setWorker w ⟨waiting, some (place, r)⟩)

/-- The steps of a schedule, one after the other. -/
def run (grade : Question → m (Record α)) (schedule : List Nat) (pool : Pool α) : m (Pool α) :=
  schedule.foldlM (step grade) pool

end Steps

/-- A schedule in which every worker makes both of its steps for one question after the other. -/
def rounds (workers questions : Nat) : List Nat :=
  (List.replicate (2 * ((questions + workers - 1) / workers)) (List.range workers)).flatten

/-- How many workers share the questions: as many as are allowed, but no more than questions. -/
def workerCount (allowed questions : Nat) : Nat := max 1 (min allowed (max questions 1))

end Pool

end SqlGrader
