import SqlGrader.Text.Digit
import SqlGrader.Number.Bounds
import SqlGrader.Number.Decimal
import SqlGrader.Json.Basic
/-!
# Connection strings without their secrets

A connection string is cut at its delimiters, and what may be shown of it is put together again
with a mask in the place of the password and of the values of secret query parameters. The cuts
are made in this order: at the first question mark, at the first `://`, at the first slash after
it, at the last `@` before that, and at the first colon of what stands before the `@`.
-/

namespace SqlGrader

/-- What may be shown and kept of a connection string. -/
structure RedactedUrl where
  scheme : Option Text
  user : Option Text
  host : Option Text
  port : Option Nat
  database : Option Text
  /-- The connection string with its secrets masked. -/
  display : Text
  deriving Repr, DecidableEq

namespace ConnectionUrl

/-- What stands in the place of a secret. -/
def mask : Text := ['*', '*', '*']

/-- A natural number of 16 bits, after a plus sign or not. -/
def port? (t : Text) : Option Nat := (Text.natural? t).filter (fitsBits 16)

/-- The texts before and after the colon in front of the port. An address that starts with a bracket
has it after the closing bracket. -/
def cutPort? (address : Text) : Option (Text × Text) :=
  if address.head? == some '[' then
    (Text.cut? [']', ':'] address).map fun p => (p.1 ++ [']'], p.2)
  else Text.cutAtLast? ':' address

/-- The host and the port of an address. -/
def hostAndPort (address : Text) : Option Text × Option Nat :=
  if address.isEmpty then (none, none)
  else match cutPort? address with
    | some (host, port) => (some host, port? port)
    | none => (some address, none)

/-- Names of query parameters whose values are secret, in small letters. -/
def secretNames : List String :=
  ["password", "passwd", "pass", "token", "secret", "api_key", "apikey"]

def isSecretName (name : Text) : Bool := secretNames.any fun s => s.toList == Text.lower name

/-- A query parameter with its value masked if it is secret. -/
def maskParameter (parameter : Text) : Text :=
  match Text.cutAt? '=' parameter with
  | some (name, _) => if isSecretName name then name ++ '=' :: mask else parameter
  | none => parameter

def maskQuery (query : Text) : Text :=
  Text.joinWith ['&'] ((Text.splitAt '&' query).map maskParameter)

/-- The user name and what is shown in front of the address. -/
def userAndDisplay : Option Text → Option Text × Text
  | none => (none, [])
  | some info =>
    match Text.cutAt? ':' info with
    | some (user, _) => (some user, user ++ ':' :: mask ++ ['@'])
    | none => (some info, info ++ ['@'])

/-- The part before the query. Without a scheme it is shown as it is. -/
def redactBase (base : Text) : RedactedUrl :=
  match Text.cut? [':', '/', '/'] base with
  | none => ⟨none, none, none, none, none, base⟩
  | some (scheme, rest) =>
    let (authority, database) := (Text.cutAt? '/' rest).getD (rest, [])
    let (info, address) := match Text.cutAtLast? '@' authority with
      | some (info, address) => (some info, address)
      | none => (none, authority)
    let (user, shownUser) := userAndDisplay info
    let (host, port) := hostAndPort address
    let shownDatabase := if database.isEmpty then [] else '/' :: database
    { scheme := some scheme, user, host, port
      database := if database.isEmpty then none else some database
      display := scheme ++ "://".toList ++ shownUser ++ address ++ shownDatabase }

end ConnectionUrl

namespace RedactedUrl

/-- What may be shown of a connection string. -/
def ofText (url : Text) : RedactedUrl :=
  match Text.cutAt? '?' url with
  | none => ConnectionUrl.redactBase url
  | some (base, query) =>
    let shown := ConnectionUrl.redactBase base
    { shown with display := shown.display ++ '?' :: ConnectionUrl.maskQuery query }

def toJson (r : RedactedUrl) : Json :=
  .object [("scheme", Json.optional .text r.scheme), ("user", Json.optional .text r.user),
    ("host", Json.optional .text r.host), ("port", Json.optional .nat r.port),
    ("database", Json.optional .text r.database), ("display", .text r.display)]

end RedactedUrl

end SqlGrader
