import SqlGrader.Sql.Scope
/-!
# Aliases, table references and joins

An expression or a table may be followed by a name for it, with or without `AS`. A table reference
is a table, possibly qualified by its schema, or a subquery in parentheses, with an alias if there
is one. A join is cut into its keywords, the reference that it joins and the rest, which starts
with `ON` or `USING`.
-/

namespace SqlGrader

namespace Alias

/-- Whether the token can be a name at all. -/
def isName (t : Token) : Bool := t.kind == .word || t.kind == .quotedName

/-- Whether the token can be an alias without `AS` before it. -/
def standsAlone (t : Token) : Bool :=
  t.kind == .quotedName || !(Keyword.isReserved t.text || Keyword.isFunction t.text)

/-- Whether an expression can end with the token. -/
def endsExpression (t : Token) : Bool :=
  match t.kind with
  | .word => !Keyword.isReserved t.text || t.isWord "END"
  | .quotedName | .stringLiteral | .number | .closeParen => true
  | _ => false

/-- The name that a token gives: without quotes as it is written, unquoted in lower case. -/
def nameOf (t : Token) : Text :=
  match t.kind with
  | .quotedName => Text.dropEndWhile (· == '"') (t.text.dropWhile (· == '"'))
  | _ => Text.lowercase t.text

/-- The tokens before the alias at the end, and the alias. -/
def splitEnd (ts : List Token) : List Token × Option Text :=
  match ts.reverse with
  | last :: before :: rest =>
    if !isName last then (ts, none)
    else if before.isWord "AS" && !rest.isEmpty then (rest.reverse, some (nameOf last))
    else if standsAlone last && endsExpression before then
      ((before :: rest).reverse, some (nameOf last))
    else (ts, none)
  | _ => (ts, none)

end Alias

/-- A table or a subquery, and the name that the statement gives it. -/
structure TableRef where
  name : Text
  aliasName : Option Text
  deriving Repr, DecidableEq

namespace TableRef

/-- The name without the default schema, which says nothing. -/
def withoutDefaultSchema (name : Text) : Text :=
  let rest := (Text.dropStartIgnoringCase? "public.".toList name).or
    (Text.dropStartIgnoringCase? "\"public\".".toList name)
  match rest with
  | some (c :: cs) => c :: cs
  | _ => name

/-- The table or subquery that the tokens before an alias name. -/
def nameOf (body : List Token) : Text :=
  if body.head?.any (·.kind == .openParen) then Scope.empty.canonicalTokens false body
  else withoutDefaultSchema (body.flatMap (·.text))

/-- The reference that a text is, if it has tokens. -/
def ofText? (t : Text) : Option TableRef :=
  match tokenize t with
  | .ok [] => none
  | .ok ts =>
    let (body, aliasName) := Alias.splitEnd ts
    some ⟨nameOf body, aliasName⟩
  | .error _ => none

/-- The part of the name after the last point. -/
def lastPart (name : Text) : Text :=
  match Text.cutAtLast? '.' name with
  | some (_, part) => part
  | none => name

end TableRef

/-- A join, cut into consecutive texts. -/
structure Join where
  /-- The text up to and including `JOIN`. -/
  keywords : Text
  /-- The text up to the condition. -/
  target : Text
  /-- The condition with a space before it, or nothing. -/
  condition : Text
  deriving Repr, DecidableEq

namespace Join

/-- What the condition of a join starts with. -/
def conditionMarks : List String := [" ON ", " USING ", " ON(", " USING("]

def startsCondition (t : Text) : Bool :=
  conditionMarks.any fun mark => (Text.dropStartIgnoringCase? mark.toList t).isSome

/-- The texts before and from the first place where a condition starts. -/
def splitTarget : Text → Text × Text
  | [] => ([], [])
  | c :: cs =>
    if startsCondition (c :: cs) then ([], c :: cs)
    else
      let (target, condition) := splitTarget cs
      (c :: target, condition)

/-- The texts up to and after the first `JOIN` in any letter case, even inside of a word. -/
def splitKeywords? : Text → Option (Text × Text)
  | [] => none
  | c :: cs =>
    match Text.dropStartIgnoringCase? "JOIN".toList (c :: cs) with
    | some rest => some ((c :: cs).take 4, rest)
    | none => (splitKeywords? cs).map fun p => (c :: p.1, p.2)

/-- The parts of a join text, if it has a `JOIN`. -/
def ofText? (t : Text) : Option Join :=
  (splitKeywords? t).map fun (keywords, rest) =>
    let (target, condition) := splitTarget rest
    ⟨keywords, target, condition⟩

/-- The text of the reference that is joined. -/
def targetText (j : Join) : Text := Text.trim j.target

/-- The end of the keywords and the end of the target, in bytes. -/
def bounds (j : Join) : Nat × Nat :=
  (j.keywords.utf8Length, j.keywords.utf8Length + j.target.utf8Length)

/-- The kind of the join. `INNER` is understood, `OUTER` says nothing. -/
def kind (j : Join) : Text :=
  let modifiers := ((Text.words j.keywords).map Text.upper).filter fun w =>
    w != "JOIN".toList && w != "OUTER".toList
  if modifiers.isEmpty then "INNER".toList else Text.joinWith [' '] modifiers

/-- The canonical text: the kind, the table and the condition. -/
def canonical (j : Join) (s : Scope) : Text :=
  let table := match TableRef.ofText? j.targetText with
    | some r => r.name
    | none => []
  let condition := s.canonical false (Text.trim j.condition)
  Text.trimEnd (j.kind ++ " JOIN ".toList ++ table ++ [' '] ++ condition)

end Join

end SqlGrader
