import SqlGrader.Data.Value
import SqlGrader.Json.Basic
/-!
# Failures of statements

Why a database gave no rows. The kind of a failure follows from the state code that the server
reports, where it reports one. Only a lost connection may be better the next time.
-/

namespace SqlGrader

inductive FailureKind
  | timeout
  | syntaxError
  | undefinedTable
  | undefinedColumn
  | undefinedFunction
  | connection
  | other
  deriving Repr, DecidableEq

namespace FailureKind

def all : List FailureKind :=
  [timeout, syntaxError, undefinedTable, undefinedColumn, undefinedFunction, connection, other]

def name : FailureKind → String
  | timeout => "timeout"
  | syntaxError => "syntax"
  | undefinedTable => "undefined_table"
  | undefinedColumn => "undefined_column"
  | undefinedFunction => "undefined_function"
  | connection => "connection"
  | other => "other"

def ofName? (s : String) : Option FailureKind := all.find? (·.name == s)

/-- The kind that a state code stands for. The class of connection failures is told by its start. -/
def ofState (code : String) : FailureKind :=
  if code = "57014" then timeout
  else if code = "42601" then syntaxError
  else if code = "42P01" then undefinedTable
  else if code = "42703" then undefinedColumn
  else if code = "42883" then undefinedFunction
  else if "08".toList.isPrefixOf code.toList then connection
  else other

/-- Whether the same statement may succeed when it is run again. -/
def isTransient (k : FailureKind) : Bool := k == connection

end FailureKind

structure Failure where
  kind : FailureKind
  message : String
  /-- The state code that the server reported. -/
  state : Option String
  deriving Repr, DecidableEq

/-- The rows of a statement, or why there are none. -/
abbrev Outcome := Except Failure (List Row)

namespace Failure

/-- A failure without a state code. -/
def ofKind (kind : FailureKind) (message : String) : Failure := ⟨kind, message, none⟩

/-- A failure that a server reports with a state code. -/
def ofState (code message : String) : Failure := ⟨.ofState code, message, some code⟩

def text (f : Failure) : String := s!"{f.kind.name} error: {f.message}"

def toJson (f : Failure) : Json :=
  .object ([("kind", .string f.kind.name), ("message", .string f.message)] ++
    Json.memberIfSome "sqlstate" .string f.state)

end Failure

/-- What a database driver can report instead of rows. -/
inductive DriverError
  /-- An error of the server, with its state code if there is one. -/
  | server (message : String) (state : Option String)
  | inputOutput (message : String)
  | encryption (message : String)
  | poolTimedOut (message : String)
  | poolClosed (message : String)
  | workerCrashed (message : String)
  /-- Anything else: a row or column that is not there, a broken protocol, a bad configuration. -/
  | unspecific (message : String)
  deriving Repr, DecidableEq

/-- The failure that a driver error amounts to. -/
def Failure.ofDriver : DriverError → Failure
  | .server message (some code) => .ofState code message
  | .server message none => .ofKind .other message
  | .inputOutput message => .ofKind .connection message
  | .encryption message => .ofKind .connection message
  | .poolTimedOut message => .ofKind .connection message
  | .poolClosed message => .ofKind .connection message
  | .workerCrashed message => .ofKind .connection message
  | .unspecific message => .ofKind .other message

end SqlGrader
