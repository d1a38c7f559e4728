import SqlGrader.Benchmark.Timestamp
import SqlGrader.Json.Writer
/-!
# Hosts

A run reads files, writes files and looks at clocks. What does so for it is a host, which acts in a
monad of its own: a run says what it reads and writes, and nothing of how.
-/

namespace SqlGrader

/-- What a run leaves behind in a file or shows to a user. -/
inductive Artifact
  | json (j : Json)
  | text (t : String)
  /-- A log, one entry on a line. -/
  | log (entries : List Json)

/-- What stands in the file of an artifact. A text ends its last line. -/
def Artifact.content : Artifact → String
  | .json j => j.pretty
  | .text t => t ++ "\n"
  | .log entries => String.join (entries.map fun j => j.compact ++ "\n")

/-- What a user sees of an artifact. -/
def Artifact.printed : Artifact → String
  | .json j => j.pretty ++ "\n"
  | a => a.content

/-- Why a file cannot be read or written. -/
structure FileFault where
  path : String
  cause : String
  deriving Repr, DecidableEq

def FileFault.message (f : FileFault) : String := s!"io error at {f.path}: {f.cause}"

/-- What a run needs of its surroundings, acting in `m`. -/
structure Host (m : Type → Type) where
  /-- The contents of a file. -/
  read : (path : String) → m (Except FileFault Text)
  hasFile : (path : String) → m Bool
  /-- Makes a directory with those above it. -/
  makeDirectory : (path : String) → m (Except FileFault Unit)
  /-- Writes a file, with the directories above it. -/
  write : (path : String) → Artifact → m (Except FileFault Unit)
  /-- The time since some moment, in nanoseconds. -/
  clock : m Nat
  now : m Timestamp
  /-- A name that no other run has. -/
  freshId : m String
  /-- The connection string that the surroundings offer. -/
  databaseUrl : Option Text

namespace Host

/-- The path of a file in a directory. A path from the root stays as it is. -/
def joinPath (directory name : String) : String :=
  if directory.isEmpty || name.startsWith "/" then name
  else if directory.endsWith "/" then directory ++ name
  else directory ++ "/" ++ name

end Host

end SqlGrader
