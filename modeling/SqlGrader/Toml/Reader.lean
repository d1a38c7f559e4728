import SqlGrader.Toml.Scalar
/-!
# Reading TOML

A document is a sequence of lines: headers that open tables, keys with their values, comments.
Values in brackets may stretch over lines, those in braces may not, and neither may lie deeper
than `maxDepth` inside of one another. A key is one or more names with dots between them.

Each step takes at least one character, so the length of the text bounds the number of steps.
-/

namespace SqlGrader.Toml.Reader

/-- The bound of the length of keys and of the depth of values. -/
def maxDepth : Nat := 79

/-- The characters of names without quotes. -/
def isNameChar (c : Char) : Bool := c.isAlphanum || c == '_' || c == '-'

/-- A name, in quotes or not. -/
def name? : Text → Option (String × Text)
  | '"' :: rest => (basicBody? (rest.length + 1) rest).map fun p => (String.ofList p.1, p.2)
  | '\'' :: rest => (literalBody? rest).map fun p => (String.ofList p.1, p.2)
  | t =>
    let name := t.takeWhile isNameChar
    if name.isEmpty then none else some (String.ofList name, t.dropWhile isNameChar)

/-- Names with dots between them, white space around each. -/
def names? : (fuel : Nat) → Text → Option (List String × Text)
  | 0, _ => none
  | fuel + 1, t => do
    let (name, rest) ← name? (skipSpace t)
    match skipSpace rest with
    | '.' :: rest =>
      let (names, rest) ← names? fuel rest
      some (name :: names, rest)
    | rest => some ([name], rest)

/-- A key: the path to its table and the name in it. -/
structure Key where
  path : List String
  name : String

def key? (t : Text) : Option (Key × Text) := do
  let (names, rest) ← names? (t.length + 1) t
  let name ← names.getLast?
  if names.length ≤ maxDepth then some (⟨names.dropLast, name⟩, rest) else none

/-- Skips white space, line ends and comments; none if a comment does not end well. -/
def skipTrivia? : (inComment : Bool) → Text → Option Text
  | true, [] => none
  | false, [] => some []
  | _, '\n' :: rest => skipTrivia? false rest
  | _, '\r' :: '\n' :: rest => skipTrivia? false rest
  | true, c :: rest => if isPlain c then skipTrivia? true rest else none
  | false, c :: rest =>
    if c = '#' then skipTrivia? true rest
    else if isSpace c then skipTrivia? false rest
    else some (c :: rest)

mutual

/-- A value, with `depth` levels left for brackets and braces. -/
def value? : (fuel depth : Nat) → Text → Option (Toml × Text)
  | 0, _, _ => none
  | fuel + 1, depth, t =>
    match t with
    | '[' :: rest =>
      match depth with
      | 0 => none
      | depth + 1 => (items? fuel depth rest).map fun p => (.array p.1, p.2)
    | '{' :: rest =>
      match depth with
      | 0 => none
      | depth + 1 =>
        match skipSpace rest with
        | '}' :: rest => some (.table .inline [], rest)
        | _ => (members? fuel depth [] rest).map fun p => (.table .inline p.1, p.2)
    | t => scalar? t

/-- The items up to the closing bracket, a comma after the last one or not. -/
def items? : (fuel depth : Nat) → Text → Option (List Toml × Text)
  | 0, _, _ => none
  | fuel + 1, depth, t => do
    match ← skipTrivia? false t with
    | ']' :: rest => some ([], rest)
    | t =>
      let (v, rest) ← value? fuel depth t
      match ← skipTrivia? false rest with
      | ']' :: rest => some ([v], rest)
      | ',' :: rest =>
        let (vs, rest) ← items? fuel depth rest
        some (v :: vs, rest)
      | _ => none

/-- The members up to the closing brace, added to those before them. -/
def members? : (fuel depth : Nat) → Members → Text → Option (Members × Text)
  | 0, _, _, _ => none
  | fuel + 1, depth, done, t => do
    let (key, rest) ← key? t
    let rest ← expect? '=' rest
    let (v, rest) ← value? fuel depth (skipSpace rest)
    let done ← done.insert key.path key.name v
    match skipSpace rest with
    | '}' :: rest => some (done, rest)
    | ',' :: rest => members? fuel depth done rest
    | _ => none

end

/-- The rest after white space, a comment and the end of the line. -/
def lineEnd? (t : Text) : Option Text :=
  let t := match skipSpace t with
    | '#' :: rest => rest.dropWhile isPlain
    | t => t
  if t.isEmpty then some [] else newline? t

/-- The part of a document that was read. -/
structure State where
  root : Members
  /-- The path of the table that keys are added to. -/
  header : List String

/-- A header in single brackets, after the opening one. -/
def header? (s : State) (t : Text) : Option (State × Text) := do
  let (key, rest) ← key? t
  let rest ← lineEnd? (← expect? ']' rest)
  let root ← s.root.openTable key.path key.name
  some (⟨root, key.path ++ [key.name]⟩, rest)

/-- A header in double brackets, after the opening ones. -/
def nextHeader? (s : State) (t : Text) : Option (State × Text) := do
  let (key, rest) ← key? t
  let rest ← lineEnd? (← expect? ']' (← expect? ']' rest))
  let root ← s.root.openNext key.path key.name
  some (⟨root, key.path ++ [key.name]⟩, rest)

/-- A key with its value. -/
def member? (s : State) (t : Text) : Option (State × Text) := do
  let (key, rest) ← key? t
  let rest ← expect? '=' rest
  let (v, rest) ← value? (2 * rest.length + 2) maxDepth (skipSpace rest)
  let rest ← lineEnd? rest
  let root ← s.root.insertBelow s.header key.path key.name v
  some ({ s with root := root }, rest)

/-- Reads on line by line. -/
def document? : (fuel : Nat) → State → Text → Option Members
  | 0, _, _ => none
  | fuel + 1, s, t =>
    match skipSpace t with
    | [] => some s.root
    | '#' :: rest => do document? fuel s (← lineEnd? ('#' :: rest))
    | '\n' :: rest => document? fuel s rest
    | '\r' :: '\n' :: rest => document? fuel s rest
    | '[' :: '[' :: rest => do
      let (s, rest) ← nextHeader? s rest
      document? fuel s rest
    | '[' :: rest => do
      let (s, rest) ← header? s rest
      document? fuel s rest
    | t => do
      let (s, rest) ← member? s t
      document? fuel s rest

end SqlGrader.Toml.Reader

namespace SqlGrader.Toml

/-- The members of the table that a document writes. A byte order mark may stand in front of it. -/
def documentOf? (t : Text) : Option Members :=
  let t := match t with
    | '\uFEFF' :: rest => rest
    | t => t
  Reader.document? (t.length + 1) ⟨[], []⟩ t

end SqlGrader.Toml
