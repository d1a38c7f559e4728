import SqlGrader.Json.Basic
import SqlGrader.Number.Shortest
/-!
# Writing JSON

`compact` writes a value on one line without spaces, `pretty` with two spaces for each level. Floats
have the fewest digits that read back, with a point or an exponent always; numbers that JSON cannot
write are null.
-/

namespace SqlGrader.Json.Writer

/-- A hexadecimal digit in small letters. -/
def hexDigit (n : Nat) : Char :=
  if n < 10 then Char.ofNat ('0'.toNat + n) else Char.ofNat ('a'.toNat + n - 10)

/-- A character inside of a string. Only quotes, backslashes and control characters are escaped. -/
def escaped (c : Char) : Text :=
  if c = '"' then ['\\', '"']
  else if c = '\\' then ['\\', '\\']
  else if c = '\n' then ['\\', 'n']
  else if c = '\r' then ['\\', 'r']
  else if c = '\t' then ['\\', 't']
  else if c = '\x08' then ['\\', 'b']
  else if c = '\x0c' then ['\\', 'f']
  else if c.toNat < 0x20 then
    ['\\', 'u', '0', '0', hexDigit (c.toNat / 16), hexDigit (c.toNat % 16)]
  else [c]

def quoted (s : String) : Text := '"' :: s.toList.flatMap escaped ++ ['"']

/-- A float with a point or an exponent. Numbers from 1e-5 up to 1e16 have no exponent. -/
def float (x : Float) : Text :=
  match Binary64.ofFloat x with
  | .finite negative mantissa exponent =>
    let d := Shortest.digits mantissa exponent
    let magnitude :=
      if d.digits = 0 then ['0', '.', '0']
      else if -5 ≤ d.leading && d.leading < 16 then
        let t := Shortest.positional d
        if 0 ≤ d.exponent then t ++ ['.', '0'] else t
      else Shortest.scientific d
    (if negative then ['-'] else []) ++ magnitude
  | _ => "null".toList

/-- The start of a new line at a level. -/
def newline (level : Nat) : Text := '\n' :: List.replicate (2 * level) ' '

mutual

def compact : Json → Text
  | .null => "null".toList
  | .bool true => "true".toList
  | .bool false => "false".toList
  | .int n => Decimal.intText n
  | .float x => float x
  | .string s => quoted s
  | .array [] => ['[', ']']
  | .array (j :: js) => '[' :: compact j ++ compactItems js
  | .object [] => ['{', '}']
  | .object ((name, j) :: ms) => '{' :: quoted name ++ ':' :: compact j ++ compactMembers ms

/-- The items after the first one, and the closing bracket. -/
def compactItems : List Json → Text
  | [] => [']']
  | j :: js => ',' :: compact j ++ compactItems js

/-- The members after the first one, and the closing brace. -/
def compactMembers : List (String × Json) → Text
  | [] => ['}']
  | (name, j) :: ms => ',' :: quoted name ++ ':' :: compact j ++ compactMembers ms

end

mutual

def pretty (level : Nat) : Json → Text
  | .array (j :: js) => '[' :: newline (level + 1) ++ pretty (level + 1) j ++ prettyItems level js
  | .object ((name, j) :: ms) =>
    '{' :: newline (level + 1) ++ quoted name ++ ':' :: ' ' :: pretty (level + 1) j ++
      prettyMembers level ms
  | j => compact j

/-- The items after the first one, and the closing bracket. -/
def prettyItems (level : Nat) : List Json → Text
  | [] => newline level ++ [']']
  | j :: js => ',' :: newline (level + 1) ++ pretty (level + 1) j ++ prettyItems level js

/-- The members after the first one, and the closing brace. -/
def prettyMembers (level : Nat) : List (String × Json) → Text
  | [] => newline level ++ ['}']
  | (name, j) :: ms =>
    ',' :: newline (level + 1) ++ quoted name ++ ':' :: ' ' :: pretty (level + 1) j ++
      prettyMembers level ms

end

end SqlGrader.Json.Writer

namespace SqlGrader.Json

/-- The value on one line. -/
def compact (j : Json) : String := String.ofList (Writer.compact j)

/-- The value on several lines. -/
def pretty (j : Json) : String := String.ofList (Writer.pretty 0 j)

end SqlGrader.Json
