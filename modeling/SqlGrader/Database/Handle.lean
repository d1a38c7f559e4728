import SqlGrader.Database.Failure
import SqlGrader.Keyed
/-!
# Handles

A handle runs statements on a source of data. It acts in a monad, since its answers may depend on
what was asked before. Two sources are at hand without a database: a fixed table of statements and
their outcomes, and a script of outcomes that ignores the statements. Both keep a log of the
statements that they were given.
-/

namespace SqlGrader

/-- A source of data that acts in `m`. -/
structure Handle (m : Type → Type) where
  /-- What the kind of the source is called. -/
  backend : String
  execute : Text → m Outcome

namespace Handle

variable {m : Type → Type} [Monad m]

/-- Runs a statement again as long as it fails for want of a connection, at most `retries` times. -/
def executeRetrying (h : Handle m) (sql : Text) : (retries : Nat) → m Outcome
  | 0 => h.execute sql
  | n + 1 => do
    match ← h.execute sql with
    | .error f => if f.kind.isTransient then h.executeRetrying sql n else pure (.error f)
    | .ok rows => pure (.ok rows)

end Handle

/-- A source that answers from a table or a script. -/
structure Source where
  /-- Outcomes by trimmed statement; later entries come first. -/
  table : List (Text × Outcome)
  /-- The outcomes that are still to come; the last one repeats. -/
  script : List Outcome
  /-- The statements so far, the last one first. -/
  log : List Text

namespace Source

/-- The statements in the order in which they were given. -/
def calls (s : Source) : List Text := s.log.reverse

def ofTable (entries : List (Text × Outcome)) : Source :=
  ⟨(entries.map fun e => (Text.trim e.1, e.2)).reverse, [], []⟩

def ofScript (outcomes : List Outcome) : Source := ⟨[], outcomes, []⟩

/-- Why a statement that the table does not hold fails. -/
def unknownStatement (sql : Text) : Failure :=
  .ofKind .syntaxError ("no fixture for statement: " ++ String.ofList sql)

/-- Answers from the table. Statements are compared, and logged, without white space at their
ends. -/
def lookUp (sql : Text) : StateM Source Outcome := fun s =>
  let key := Text.trim sql
  ((s.table.lookup key).getD (.error (unknownStatement key)), { s with log := key :: s.log })

/-- Answers with the next outcome of the script. -/
def replay (sql : Text) : StateM Source Outcome := fun s =>
  let s := { s with log := sql :: s.log }
  match s.script with
  | [] => (.error (.ofKind .other "the script is empty"), s)
  | [last] => (last, s)
  | next :: rest => (next, { s with script := rest })

end Source

namespace Handle

/-- A table of outcomes in memory. -/
def table : Handle (StateM Source) := ⟨"memory", Source.lookUp⟩

/-- A script of outcomes under a name. -/
def script (backend : String) : Handle (StateM Source) := ⟨backend, Source.replay⟩

end Handle

end SqlGrader
