import SqlGrader.Benchmark.Pipeline
import SqlGrader.Text.Quoted
/-!
# Failures of commands

Why a command ends without success, and the diagnostic that says so: the kind of the failure with
what belongs to it in parentheses and braces.
-/

namespace SqlGrader.Command

inductive CommandError
  /-- The arguments make no request. -/
  | misuse
  /-- The directory of the run cannot be made or written to. -/
  | runDirectory (f : FileFault)
  /-- A file of settings or a log cannot be read or written. -/
  | file (f : FileFault)
  | malformedSettings (path : String)
  | settings (e : SettingsError)
  | plan (e : PlanError)
  | database (f : Failure)
  | blankStatement
  /-- The connection string, without its secrets, is not of a known engine. -/
  | unsupportedEngine (shown : Text)
  /-- So many tasks of the run failed. -/
  | failedTasks (count : Nat)
  deriving Repr, DecidableEq

namespace CommandError

/-- A text in quotes. -/
def quoted (s : String) : String := String.ofList (Text.quoted s.toList)

def kindName : FailureKind → String
  | .timeout => "Timeout"
  | .syntaxError => "Syntax"
  | .undefinedTable => "UndefinedTable"
  | .undefinedColumn => "UndefinedColumn"
  | .undefinedFunction => "UndefinedFunction"
  | .connection => "Connection"
  | .other => "Other"

/-- A name with its fields in braces. -/
def withFields (name : String) (fields : List (String × String)) : String :=
  name ++ " \x7b " ++ ", ".intercalate (fields.map fun f => f.1 ++ ": " ++ f.2) ++ " \x7d"

/-- A name with what belongs to it in parentheses. -/
def withArgument (name argument : String) : String := s!"{name}({argument})"

/-- The cause of a file fault. -/
def causeText (f : FileFault) : String := withFields "Os" [("message", quoted f.cause)]

def stateText : Option String → String
  | some code => withArgument "Some" (quoted code)
  | none => "None"

/-- The failure of a statement or a connection. -/
def failureText (f : Failure) : String :=
  withFields "ExecutionError" [("kind", kindName f.kind), ("message", quoted f.message),
    ("sqlstate", stateText f.state)]

/-- The diagnostic. -/
def text : CommandError → String
  | misuse => "Usage"
  | runDirectory f => withArgument "Registry" (withArgument "Io" (causeText f))
  | file f =>
    withArgument "Pipeline" (withFields "Io" [("path", quoted f.path), ("source", causeText f)])
  | malformedSettings path =>
    withArgument "Pipeline" (withFields "Toml" [("path", quoted path)])
  | settings e => withArgument "Pipeline" (withArgument "InvalidSettings" (quoted e.reason))
  | plan e => withArgument "Pipeline" (withArgument "Graph" (quoted e.message))
  | database f => withArgument "Database" (failureText f)
  | blankStatement =>
    withArgument "InvalidConfig" (quoted "both --reference and --predicted must be non-empty")
  | unsupportedEngine shown =>
    withArgument "UnsupportedEngine" (String.ofList (Text.quoted shown))
  | failedTasks count => withArgument "RunFailed" (toString count)

/-- The code that the command exits with. -/
def exitCode : CommandError → Nat
  | misuse => 2
  | _ => 1

end CommandError

end SqlGrader.Command
