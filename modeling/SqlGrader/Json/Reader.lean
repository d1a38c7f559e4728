import SqlGrader.Json.Basic
import SqlGrader.Number.Bounds
import SqlGrader.Text.Digit
/-!
# Reading JSON

The grammar is that of JSON without extensions: no comments, no trailing commas, no leading zeros,
no lone surrogates. Arrays and objects may lie 127 deep inside of one another.

A whole number stays one if it fits 64 bits, signed or not; minus zero does not. Every other
number is a float, made from its first digits, as many as 64 bits hold, by one multiplication or
division by a power of ten. That is the nearest float as long as both are exact, and near it
otherwise. A number beyond the greatest float is refused.

These are the documented choices of the library `serde_json` without its optional features: a
recursion limit of 128 levels, numbers that are kept as words of 64 bits where they are whole and
fit one, floats that are read for speed and not to the last bit, and an error for a number that is
out of range.

Each step takes at least one character, so the length of the text bounds the number of steps.
-/

namespace SqlGrader.Json.Reader

def isSpace (c : Char) : Bool := c == ' ' || c == '\n' || c == '\t' || c == '\r'

def skipSpace (t : Text) : Text := t.dropWhile isSpace

/-- The value of four hexadecimal digits, and the rest. -/
def hex4? : Text → Option (Nat × Text)
  | a :: b :: c :: d :: rest => do
    let a ← Text.hexValue? a
    let b ← Text.hexValue? b
    let c ← Text.hexValue? c
    let d ← Text.hexValue? d
    some (((a * 16 + b) * 16 + c) * 16 + d, rest)
  | _ => none

/-- The character that `\u` and the digits after it stand for. A leading surrogate needs a trailing
one after it. -/
def unicodeEscape? (t : Text) : Option (Char × Text) := do
  let (n, rest) ← hex4? t
  if 0xDC00 ≤ n && n ≤ 0xDFFF then none
  else if 0xD800 ≤ n && n ≤ 0xDBFF then
    match rest with
    | '\\' :: 'u' :: rest =>
      let (m, rest) ← hex4? rest
      if 0xDC00 ≤ m && m ≤ 0xDFFF then
        some (Char.ofNat (0x10000 + (n - 0xD800) * 0x400 + (m - 0xDC00)), rest)
      else none
    | _ => none
  else some (Char.ofNat n, rest)

/-- The character that stands after a backslash, and the rest. -/
def escape? : Text → Option (Char × Text)
  | [] => none
  | c :: rest =>
    if c = '"' || c = '\\' || c = '/' then some (c, rest)
    else if c = 'b' then some ('\x08', rest)
    else if c = 'f' then some ('\x0c', rest)
    else if c = 'n' then some ('\n', rest)
    else if c = 'r' then some ('\r', rest)
    else if c = 't' then some ('\t', rest)
    else if c = 'u' then unicodeEscape? rest
    else none

/-- The contents of a string up to its closing quote, and the rest. -/
def stringBody? : (fuel : Nat) → Text → Option (Text × Text)
  | 0, _ => none
  | _, [] => none
  | fuel + 1, c :: rest =>
    if c = '"' then some ([], rest)
    else if c = '\\' then do
      let (d, rest) ← escape? rest
      let (body, rest) ← stringBody? fuel rest
      some (d :: body, rest)
    else if c.toNat < 0x20 then none
    else do
      let (body, rest) ← stringBody? fuel rest
      some (c :: body, rest)

/-- The first digits of a number, read into 64 bits. -/
structure Significand where
  value : Nat
  /-- Digits that no longer fit; each stands for a factor ten. -/
  dropped : Nat
  deriving Repr

/-- Adds a digit, unless the value would pass 64 bits or a digit was dropped before. -/
def Significand.push (s : Significand) (digit : Char) : Significand :=
  let next := s.value * 10 + (digit.toNat - '0'.toNat)
  if s.dropped = 0 && fitsBits 64 next then { s with value := next }
  else { s with dropped := s.dropped + 1 }

/-- The float `significand · 10 ^ exponent`, by one operation with a power of ten; none if it is too
large. An exponent below -308 is taken in portions. -/
def scaleFloat? (x : Float) (exponent : Int) : (fuel : Nat) → Option Float
  | 0 => some x
  | fuel + 1 =>
    if exponent.natAbs ≤ 308 then
      let power := Float.ofScientific 1 false exponent.natAbs
      let y := if 0 ≤ exponent then x * power else x / power
      if y.isInf then none else some y
    else if x == 0 then some x
    else if 0 ≤ exponent then none
    else scaleFloat? (x / Float.ofScientific 1 false 308) (exponent + 308) fuel

/-- The exponent after its mark: a sign and at least one digit. -/
def exponent? (t : Text) : Option (Int × Text) :=
  let (negative, t) := match t with
    | '+' :: rest => (false, rest)
    | '-' :: rest => (true, rest)
    | rest => (false, rest)
  let digits := t.takeWhile Char.isDigit
  if digits.isEmpty then none
  else
    let n := Text.natOfDigits 10 digits
    some (if negative then -(n : Int) else n, t.dropWhile Char.isDigit)

/-- A number without its sign. -/
def unsigned? (negative : Bool) (t : Text) : Option (Json × Text) := do
  let whole := t.takeWhile Char.isDigit
  let rest := t.dropWhile Char.isDigit
  if whole.isEmpty || (whole.length > 1 && whole.head? == some '0') then none
  let s := whole.foldl Significand.push ⟨0, 0⟩
  let (fraction, rest) ← match rest with
    | '.' :: more =>
      let digits := more.takeWhile Char.isDigit
      if digits.isEmpty then none else some (digits, more.dropWhile Char.isDigit)
    | _ => some ([], rest)
  let (exponent, rest) ← match rest with
    | e :: more =>
      if e = 'e' || e = 'E' then (exponent? more).map fun p => (some p.1, p.2)
      else some (none, rest)
    | [] => some (none, rest)
  let n : Int := if negative then -(s.value : Int) else s.value
  if fraction.isEmpty && exponent.isNone && s.dropped = 0 && (0 ≤ n || isInt64 n) &&
      !(negative && s.value = 0) then
    some (.int n, rest)
  else
    let withFraction := fraction.foldl Significand.push ⟨s.value, 0⟩
    let kept : Int := fraction.length - withFraction.dropped
    let scale : Int := s.dropped - kept + exponent.getD 0
    -- beyond these bounds every number but zero is too large or rounds to zero
    let scale := max (-100000) (min 100000 scale)
    let x ← scaleFloat? (Float.ofNat withFraction.value) scale 400
    some (.float (if negative then -x else x), rest)

def number? : Text → Option (Json × Text)
  | '-' :: rest => unsigned? true rest
  | t => unsigned? false t

mutual

/-- A value at the start of the text, with `depth` levels left for arrays and objects. -/
def value? : (fuel depth : Nat) → Text → Option (Json × Text)
  | 0, _, _ => none
  | fuel + 1, depth, t =>
    match skipSpace t with
    | 'n' :: 'u' :: 'l' :: 'l' :: rest => some (.null, rest)
    | 't' :: 'r' :: 'u' :: 'e' :: rest => some (.bool true, rest)
    | 'f' :: 'a' :: 'l' :: 's' :: 'e' :: rest => some (.bool false, rest)
    | '"' :: rest => (stringBody? (rest.length + 1) rest).map fun p => (.text p.1, p.2)
    | '[' :: rest =>
      match depth with
      | 0 => none
      | depth + 1 =>
        match skipSpace rest with
        | ']' :: rest => some (.array [], rest)
        | _ => (items? fuel depth rest).map fun p => (.array p.1, p.2)
    | '{' :: rest =>
      match depth with
      | 0 => none
      | depth + 1 =>
        match skipSpace rest with
        | '}' :: rest => some (.object [], rest)
        | _ => (members? fuel depth rest).map fun p => (.object p.1, p.2)
    | t => number? t

/-- The items of an array up to its closing bracket. -/
def items? : (fuel depth : Nat) → Text → Option (List Json × Text)
  | 0, _, _ => none
  | fuel + 1, depth, t => do
    let (j, rest) ← value? fuel depth t
    match skipSpace rest with
    | ']' :: rest => some ([j], rest)
    | ',' :: rest =>
      let (js, rest) ← items? fuel depth rest
      some (j :: js, rest)
    | _ => none

/-- The members of an object up to its closing brace. -/
def members? : (fuel depth : Nat) → Text → Option (List (String × Json) × Text)
  | 0, _, _ => none
  | fuel + 1, depth, t =>
    match skipSpace t with
    | '"' :: rest => do
      let (name, rest) ← stringBody? (rest.length + 1) rest
      match skipSpace rest with
      | ':' :: rest =>
        let (j, rest) ← value? fuel depth rest
        match skipSpace rest with
        | '}' :: rest => some ([(String.ofList name, j)], rest)
        | ',' :: rest =>
          let (ms, rest) ← members? fuel depth rest
          some ((String.ofList name, j) :: ms, rest)
        | _ => none
      | _ => none
    | _ => none

end

end SqlGrader.Json.Reader

namespace SqlGrader

/-- The value that a text is written as, when the text is one JSON value and nothing else. -/
def Json.ofText? (t : Text) : Option Json :=
  match Json.Reader.value? (2 * t.length + 2) 127 t with
  | some (j, rest) => if (Json.Reader.skipSpace rest).isEmpty then some j else none
  | none => none

end SqlGrader
