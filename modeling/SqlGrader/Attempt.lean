/-!
# Attempts

What comes of running code that is not trusted: a value, an error that it reports, or a crash. A
crash carries a text or nothing that can be shown.
-/

namespace SqlGrader

inductive Attempt (ε α : Type)
  | value (a : α)
  | error (e : ε)
  | crash (message : Option String)
  deriving Repr, DecidableEq

namespace Attempt

/-- What is said about a crash. -/
def crashText (message : Option String) : String := message.getD "unknown panic payload"

def ofExcept {ε α : Type} : Except ε α → Attempt ε α
  | .ok a => value a
  | .error e => error e

end Attempt

end SqlGrader
