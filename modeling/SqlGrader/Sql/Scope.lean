import SqlGrader.Sql.Lexer
import SqlGrader.Sql.NormalForm
import SqlGrader.Text.Lowercase
/-!
# Names in scope and canonical fragments

Two fragments of statements are compared in a canonical form: keywords in capitals, spaces in fixed
places, names of tables in the place of their aliases. The scope says what the names of a statement
stand for. Where it knows one table only, qualifiers carry no information and are left out.

A later entry of a scope hides an earlier one of the same name. Names are looked up in lower case.
-/

namespace SqlGrader

/-- What the names of a statement stand for. Entries that were made later come first. -/
structure Scope where
  /-- Names and aliases of tables, with the table that they qualify. -/
  qualifiers : List (Text × Text)
  /-- Whether one table and no join is in scope. -/
  singleTable : Bool
  /-- Aliases of projection items, with the canonical expression that they name. -/
  projectionAliases : List (Text × Text)
  deriving Repr, DecidableEq

/-- A stretch of canonical text that is not divided by a space. -/
structure Piece where
  kind : TokenKind
  text : Text
  deriving Repr, DecidableEq

namespace Piece

def ofToken (t : Token) : Piece := ⟨t.kind, t.foldedText⟩

def word (t : Text) : Piece := ⟨.word, t⟩

/-- Whether the text joins its neighbours: a point or a cast. -/
def isJoint (p : Piece) : Bool := p.text == ['.'] || p.text == [':', ':']

/-- Whether no space stands between two neighbours. A parenthesis is set close to a word before it
that may name a function. -/
def isTight (p q : Piece) : Bool :=
  p.isJoint || p.kind == .openParen ||
    match q.kind with
    | .closeParen => true
    | .comma => true
    | .openParen => p.kind == .word && !Keyword.isReserved p.text
    | _ => q.isJoint

/-- The text of the pieces after `p`, each with a space before it where it needs one. -/
def renderAfter (p : Piece) : List Piece → Text
  | [] => []
  | q :: qs => (if isTight p q then q.text else ' ' :: q.text) ++ renderAfter q qs

/-- The pieces with spaces in the fixed places. -/
def render : List Piece → Text
  | [] => []
  | p :: ps => p.text ++ renderAfter p ps

end Piece

namespace Scope

/-- The scope in which no name stands for another. -/
def empty : Scope := ⟨[], false, []⟩

def isDot (t : Token) : Bool := t.text == ['.']

/-- The table that a qualifier stands for. -/
def table? (s : Scope) (name : Text) : Option Text := s.qualifiers.lookup (Text.lowercase name)

/-- The expression that a projection alias stands for. -/
def expression? (s : Scope) (name : Text) : Option Text :=
  s.projectionAliases.lookup (Text.lowercase name)

/-- The pieces of a token list. `afterDot` says whether a point stands before it, `withAliases`
whether references to projection aliases are replaced by what they name.

A word qualifies what follows it if a point stands after it and none before it. A word refers to an
alias if no point is next to it and no parenthesis opens after it. -/
def pieces (s : Scope) (withAliases : Bool) (afterDot : Bool) : List Token → List Piece
  | [] => []
  | t :: ts =>
    let beforeDot := ts.head?.any isDot
    let qualifier := if t.kind == .word && beforeDot && !afterDot then s.table? t.text else none
    let reference :=
      if withAliases && t.kind == .word && !beforeDot && !afterDot &&
          ts.head?.all (·.kind != .openParen) then
        s.expression? t.text
      else none
    match qualifier, reference with
    | some table, _ =>
      if s.singleTable then
        match ts with
        | [] => []
        | _ :: rest => pieces s withAliases true rest
      else .word table :: pieces s withAliases (isDot t) ts
    | none, some expression => .word expression :: pieces s withAliases (isDot t) ts
    | none, none => .ofToken t :: pieces s withAliases (isDot t) ts

/-- The canonical text of a token list. -/
def canonicalTokens (s : Scope) (withAliases : Bool) (ts : List Token) : Text :=
  Piece.render (s.pieces withAliases false ts)

/-- The canonical text of a fragment; its normal form if it has no tokens. -/
def canonical (s : Scope) (withAliases : Bool) (t : Text) : Text :=
  match tokenize t with
  | .ok ts => s.canonicalTokens withAliases ts
  | .error _ => normalize t

end Scope

end SqlGrader
