import SqlGrader.Database.Handle
import SqlGrader.Database.ConnectionUrl
import SqlGrader.Text.FormEncoded
/-!
# Database servers

How a server would be used, and which connection strings can be told to be wrong without asking
it: a port must be a number of 16 bits and the encryption mode one of those that exist. This
library speaks no network protocol, so a connection string that is in order fails for want of a
connection.
-/

namespace SqlGrader.Server

structure Options where
  /-- The time that the server gives each statement. -/
  statementTimeoutMs : Nat
  maxConnections : Nat
  /-- How long to wait for a free connection. -/
  acquireTimeoutMs : Nat
  /-- Whether statements run in transactions that cannot write. -/
  readOnly : Bool
  deriving Repr, DecidableEq

def defaults : Options := ⟨30000, 5, 10000, true⟩

/-- How long a client waits for a statement: five seconds longer than the server gives it. -/
def Options.clientDeadlineMs (o : Options) : Nat := o.statementTimeoutMs + 5000

/-- The texts before and after the first of the characters. -/
def cutAtAny (ds : List Char) (t : Text) : Text × Text :=
  (t.takeWhile fun c => !ds.contains c, t.dropWhile fun c => !ds.contains c)

/-- The host with its port, and the query, of a connection string. -/
def addressAndQuery (url : Text) : Text × Text :=
  let rest := match Text.cut? "://".toList url with
    | some (_, rest) => rest
    | none => url
  let (authority, tail) := cutAtAny ['/', '?', '#'] rest
  let address := match Text.cutAtLast? '@' authority with
    | some (_, address) => address
    | none => authority
  let query := match Text.cutAt? '?' (tail.takeWhile (· != '#')) with
    | some (_, query) => query
    | none => []
  (address, query)

/-- The text after the first colon of an address that does not stand in brackets. -/
def portText? (inBrackets : Bool) : Text → Option Text
  | [] => none
  | c :: cs =>
    if c = ':' && !inBrackets then some cs
    else portText? (c = '[' || (inBrackets && c != ']')) cs

/-- Whether an address has no port, an empty one or a number of 16 bits. -/
def hasGoodPort (address : Text) : Bool :=
  match portText? false address with
  | none => true
  | some port => port.all Char.isDigit && fitsBits 16 (Text.natOfDigits 10 port)

/-- The encryption modes that exist. -/
def encryptionModes : List String :=
  ["disable", "allow", "prefer", "require", "verify-ca", "verify-full"]

/-- The parameters that ask for an encryption mode. -/
def modeNames : List String := ["sslmode", "ssl-mode"]

/-- Whether a query parameter, a name and a value, asks for no encryption mode that does not exist
and for no port that is none. -/
def isGoodParameter : Text × Text → Bool
  | (name, value) =>
    if modeNames.any (·.toList == name) then encryptionModes.any (·.toList == Text.lower value)
    else if name == "port".toList then (ConnectionUrl.port? value).isSome
    else true

/-- Why a connection string gives no connection. -/
def connectionFailure (url : Text) : Failure :=
  let (address, query) := addressAndQuery url
  if !hasGoodPort address then .ofKind .other "invalid port number"
  else if !(Text.FormEncoded.parameters query).all isGoodParameter then
    .ofKind .other "invalid parameter"
  else .ofKind .connection "no connection to a server"

/-- Tries to connect. -/
def openHandle {m : Type → Type} (url : Text) (_options : Options) : Except Failure (Handle m) :=
  .error (connectionFailure url)

end SqlGrader.Server
