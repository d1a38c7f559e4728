import SqlGrader.Command.Reply
/-!
# The program

The host of the program is the machine that it runs on. Everything else is decided elsewhere.
-/

namespace SqlGrader.Main

/-- The result of an action on a file, an exception being a fault. -/
def attempt {α : Type} (path : String) (action : IO α) : IO (Except FileFault α) := do
  match ← action.toBaseIO with
  | .ok a => pure (.ok a)
  | .error e => pure (.error ⟨path, toString e⟩)

/-- The directory that a file is in; empty for the working directory. -/
def parentOf (path : String) : String :=
  match Text.cutAtLast? '/' path.toList with
  | some (directory, _) => String.ofList directory
  | none => ""

def writeFile (path content : String) : IO Unit := do
  let directory := parentOf path
  unless directory.isEmpty do IO.FS.createDirAll directory
  IO.FS.writeFile path content

/-- Whether a path leads anywhere. -/
def exists? (path : String) : IO Bool := do
  match ← (IO.FS.realPath path).toBaseIO with
  | .ok _ => pure true
  | .error _ => pure false

/-- The time of the day, which is that of a file that was just made. -/
def currentTime : IO Timestamp := do
  let (_, path) ← IO.FS.createTempFile
  let data ← path.metadata
  IO.FS.removeFile path
  pure ⟨data.modified.sec.toNat⟩

/-- Thirty-two random digits. -/
def randomId : IO String := do
  let bytes ← IO.getRandomBytes 16
  let digits := bytes.toList.flatMap fun b =>
    Nat.toDigits 16 (b.toNat / 16) ++ Nat.toDigits 16 (b.toNat % 16)
  pure (String.ofList digits)

def host (databaseUrl : Option String) : Host IO where
  read path := attempt path (String.toList <$> IO.FS.readFile path)
  hasFile := exists?
  makeDirectory path := attempt path (IO.FS.createDirAll path)
  write path a := attempt path (writeFile path a.content)
  clock := IO.monoNanosNow
  now := currentTime
  freshId := randomId
  databaseUrl := databaseUrl.map String.toList

end SqlGrader.Main

def main (arguments : List String) : IO UInt32 := do
  let host := SqlGrader.Main.host (← IO.getEnv "DATABASE_URL")
  let reply ← SqlGrader.Command.answer host arguments
  IO.print reply.output
  IO.eprint reply.diagnostics
  pure reply.exitCode.toUInt32
