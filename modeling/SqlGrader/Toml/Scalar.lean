import SqlGrader.Toml.Basic
import SqlGrader.Text.Digit
import SqlGrader.Number.Bounds
/-!
# TOML scalars

The values that hold no others: strings of four kinds, integers of 64 bits in four bases, floats,
points in time and truth values. Each reader takes what it needs from the start of a text and gives
the rest; what may follow a value is for its surroundings to say.

Neither strings nor comments may hold control characters other than tabs; lines end in a line feed,
with a carriage return in front of it or not.
-/

namespace SqlGrader.Toml.Reader

/-- The characters that may stand in strings and comments. -/
def isPlain (c : Char) : Bool := c == '\t' || (c.toNat ≥ 0x20 && c.toNat != 0x7F)

def isSpace (c : Char) : Bool := c == ' ' || c == '\t'

def skipSpace (t : Text) : Text := t.dropWhile isSpace

/-- The rest after the end of a line. -/
def newline? : Text → Option Text
  | '\n' :: rest => some rest
  | '\r' :: '\n' :: rest => some rest
  | _ => none

/-- The character with the number that the digits write, if there is one. -/
def scalarValue? (digits : Text) : Option Char :=
  if digits.all (Text.isDigitIn 16) then
    let n := Text.natOfDigits 16 digits
    if n.isValidChar then some (Char.ofNat n) else none
  else none

/-- The character that stands after a backslash, and the rest. -/
def escape? : Text → Option (Char × Text)
  | [] => none
  | c :: rest =>
    if c = '"' || c = '\\' then some (c, rest)
    else if c = 'b' then some ('\x08', rest)
    else if c = 't' then some ('\t', rest)
    else if c = 'n' then some ('\n', rest)
    else if c = 'f' then some ('\x0c', rest)
    else if c = 'r' then some ('\r', rest)
    else
      let length := if c = 'u' then 4 else if c = 'U' then 8 else 0
      if length = 0 || rest.length < length then none
      else (scalarValue? (rest.take length)).map fun d => (d, rest.drop length)

/-- The contents of a string on one line, up to its closing double quote. -/
def basicBody? : (fuel : Nat) → Text → Option (Text × Text)
  | 0, _ => none
  | _, [] => none
  | fuel + 1, c :: rest =>
    if c = '"' then some ([], rest)
    else if c = '\\' then do
      let (d, rest) ← escape? rest
      let (body, rest) ← basicBody? fuel rest
      some (d :: body, rest)
    else if isPlain c then do
      let (body, rest) ← basicBody? fuel rest
      some (c :: body, rest)
    else none

/-- The contents of a string without escapes on one line, up to its closing single quote. -/
def literalBody? : Text → Option (Text × Text)
  | [] => none
  | c :: rest =>
    if c = '\'' then some ([], rest)
    else if isPlain c then (literalBody? rest).map fun p => (c :: p.1, p.2)
    else none

/-- Skips white space over lines. -/
def skipLines : Text → Text
  | [] => []
  | '\r' :: '\n' :: rest => skipLines rest
  | c :: rest => if c = '\n' || isSpace c then skipLines rest else c :: rest

/-- The contents of a string over several lines, up to three closing quotes. Up to two more quotes
in front of them belong to the string. A backslash at the end of a line skips the white space
after it. -/
def multilineBody? (quote : Char) (escapes : Bool) : (fuel : Nat) → Text → Option (Text × Text)
  | 0, _ => none
  | _, [] => none
  | fuel + 1, c :: rest =>
    if c = quote then
      let count := (rest.takeWhile (· == quote)).length + 1
      if 5 < count then none
      else if 3 ≤ count then some (List.replicate (count - 3) quote, rest.drop (count - 1))
      else (multilineBody? quote escapes fuel rest).map fun p => (c :: p.1, p.2)
    else if c = '\\' && escapes then
      match newline? (skipSpace rest) with
      | some rest => multilineBody? quote escapes fuel (skipLines rest)
      | none => do
        let (d, rest) ← escape? rest
        let (body, rest) ← multilineBody? quote escapes fuel rest
        some (d :: body, rest)
    else
      match newline? (c :: rest) with
      | some rest => (multilineBody? quote escapes fuel rest).map fun p => ('\n' :: p.1, p.2)
      | none =>
        if isPlain c then (multilineBody? quote escapes fuel rest).map fun p => (c :: p.1, p.2)
        else none

/-- The text without a line end at its start. -/
def dropNewline (t : Text) : Text := (newline? t).getD t

/-- A string of any kind. -/
def string? : Text → Option (Text × Text)
  | '"' :: '"' :: '"' :: rest => multilineBody? '"' true (rest.length + 1) (dropNewline rest)
  | '\'' :: '\'' :: '\'' :: rest => multilineBody? '\'' false (rest.length + 1) (dropNewline rest)
  | '"' :: rest => basicBody? (rest.length + 1) rest
  | '\'' :: rest => literalBody? rest
  | _ => none

/-- Digits in a base, single underscores between them left out, and the rest. -/
def groupedDigits (base : Nat) : Text → Text × Text
  | [] => ([], [])
  | '_' :: c :: rest =>
    if Text.isDigitIn base c then
      let (digits, rest) := groupedDigits base rest
      (c :: digits, rest)
    else ([], '_' :: c :: rest)
  | c :: rest =>
    if Text.isDigitIn base c then
      let (digits, rest) := groupedDigits base rest
      (c :: digits, rest)
    else ([], c :: rest)

/-- Digits in a base of which the first is no underscore. -/
def digits? (base : Nat) (t : Text) : Option (Text × Text) :=
  if t.head?.any (Text.isDigitIn base) then some (groupedDigits base t) else none

/-- A sign, which may be missing, and the rest. -/
def sign : Text → Bool × Text
  | '-' :: rest => (true, rest)
  | '+' :: rest => (false, rest)
  | rest => (false, rest)

/-- Decimal digits without needless zeros in front. A zero stands alone. -/
def wholeDigits? : Text → Option (Text × Text)
  | '0' :: rest => some (['0'], rest)
  | t => digits? 10 t

/-- An integer of 64 bits. -/
def integerOf? (negative : Bool) (n : Nat) : Option Toml :=
  let i : Int := if negative then -(n : Int) else n
  if isInt64 i then some (.integer i) else none

/-- An integer in the base that stands behind its mark. -/
def basedInteger? (base : Nat) (t : Text) : Option (Toml × Text) := do
  let (digits, rest) ← digits? base t
  (integerOf? false (Text.natOfDigits base digits)).map fun v => (v, rest)

def integer? : Text → Option (Toml × Text)
  | '0' :: 'x' :: rest => basedInteger? 16 rest
  | '0' :: 'o' :: rest => basedInteger? 8 rest
  | '0' :: 'b' :: rest => basedInteger? 2 rest
  | t => do
    let (negative, t) := sign t
    let (digits, rest) ← wholeDigits? t
    (integerOf? negative (Text.natOfDigits 10 digits)).map fun v => (v, rest)

/-- The float `±digits · 10 ^ exponent`. Far beyond the range of floats it is infinite or zero. -/
def floatOf (negative : Bool) (digits : Text) (exponent : Int) : Float :=
  let n := Text.natOfDigits 10 digits
  let leading := exponent + digits.length
  let x :=
    if n = 0 || leading < -400 then 0.0
    else if digits.length + 400 < leading then 1.0 / 0.0
    else Float.ofScientific n (exponent < 0) exponent.natAbs
  if negative then -x else x

/-- A point and the digits after it. -/
def fraction? : Text → Option (Text × Text)
  | '.' :: rest => digits? 10 rest
  | _ => none

/-- An exponent after its mark. -/
def exponent? : Text → Option (Int × Text)
  | [] => none
  | e :: rest =>
    if e = 'e' || e = 'E' then do
      let (negative, rest) := sign rest
      let (digits, rest) ← digits? 10 rest
      let n := Text.natOfDigits 10 digits
      some (if negative then -(n : Int) else n, rest)
    else none

/-- A number with a fraction or an exponent or both. One that rounds to infinity is refused,
unless it is negative. -/
def decimalFloat? (t : Text) : Option (Toml × Text) := do
  let (negative, t) := sign t
  let (whole, rest) ← wholeDigits? t
  let fraction := fraction? rest
  let (places, rest) := fraction.getD ([], rest)
  let exponent := exponent? rest
  if fraction.isNone && exponent.isNone then none
  else
    let (power, rest) := exponent.getD (0, rest)
    let x := floatOf negative (whole ++ places) (power - places.length)
    if x.isInf && !negative then none else some (.float x, rest)

/-- An infinity or what is no number. -/
def namedFloat? (t : Text) : Option (Toml × Text) :=
  match sign t with
  | (negative, 'i' :: 'n' :: 'f' :: rest) =>
    some (.float (if negative then -1.0 / 0.0 else 1.0 / 0.0), rest)
  | (_, 'n' :: 'a' :: 'n' :: rest) => some (.float (0.0 / 0.0), rest)
  | _ => none

/-- A number of exactly so many digits that lies between two bounds. -/
def numeral? (length low high : Nat) (t : Text) : Option (Nat × Text) :=
  let digits := t.take length
  let n := Text.natOfDigits 10 digits
  if digits.length = length && digits.all Char.isDigit && low ≤ n && n ≤ high then
    some (n, t.drop length)
  else none

/-- The rest after a character that must come next. -/
def expect? (c : Char) : Text → Option Text
  | d :: rest => if c = d then some rest else none
  | [] => none

def isLeapYear (year : Nat) : Bool := year % 4 == 0 && (year % 100 != 0 || year % 400 == 0)

def daysInMonth (year month : Nat) : Nat :=
  if month = 2 then if isLeapYear year then 29 else 28
  else if month = 4 || month = 6 || month = 9 || month = 11 then 30
  else 31

/-- The rest after a day of the calendar. -/
def date? (t : Text) : Option Text := do
  let (year, t) ← numeral? 4 0 9999 t
  let (month, t) ← numeral? 2 1 12 (← expect? '-' t)
  let (_, t) ← numeral? 2 1 (daysInMonth year month) (← expect? '-' t)
  some t

/-- The rest after the fraction of a second, if there is one. -/
def skipFraction : Text → Text
  | '.' :: rest =>
    if rest.head?.any Char.isDigit then rest.dropWhile Char.isDigit else '.' :: rest
  | t => t

/-- The rest after a time of the day. -/
def time? (t : Text) : Option Text := do
  let (_, t) ← numeral? 2 0 23 t
  let (_, t) ← numeral? 2 0 59 (← expect? ':' t)
  let (_, t) ← numeral? 2 0 60 (← expect? ':' t)
  some (skipFraction t)

/-- The rest after a distance from universal time. -/
def offset? : Text → Option Text
  | [] => none
  | c :: rest =>
    if c = 'Z' || c = 'z' then some rest
    else if c = '+' || c = '-' then do
      let (_, t) ← numeral? 2 0 23 rest
      let (_, t) ← numeral? 2 0 59 (← expect? ':' t)
      some t
    else none

/-- The rest after a day, perhaps with a time and a distance, or after a time. -/
def momentEnd? (t : Text) : Option Text :=
  match date? t with
  | none => time? t
  | some [] => some []
  | some (c :: rest) =>
    if c = 'T' || c = 't' || c = ' ' then
      match time? rest with
      | some rest => some ((offset? rest).getD rest)
      | none => some (c :: rest)
    else some (c :: rest)

def dateTime? (t : Text) : Option (Toml × Text) :=
  (momentEnd? t).map fun rest => (.dateTime (t.take (t.length - rest.length)), rest)

/-- A value that starts with a digit or a sign. -/
def number? (t : Text) : Option (Toml × Text) :=
  dateTime? t <|> decimalFloat? t <|> namedFloat? t <|> integer? t

/-- A value that holds no others. -/
def scalar? : Text → Option (Toml × Text)
  | 't' :: 'r' :: 'u' :: 'e' :: rest => some (.boolean true, rest)
  | 'f' :: 'a' :: 'l' :: 's' :: 'e' :: rest => some (.boolean false, rest)
  | t =>
    match t.head? with
    | none => none
    | some c =>
      if c = '"' || c = '\'' then (string? t).map fun p => (.string p.1, p.2)
      else if c.isDigit || c = '+' || c = '-' then number? t
      else namedFloat? t

end SqlGrader.Toml.Reader
