import SqlGrader.Sql.ClauseWords
import SqlGrader.Sql.Projection
/-!
# Statements with their names resolved

A statement as its clauses together with the names that they bring into scope. Tables come into
scope from the source clause and from the joins, in this order, under their own name and under
their alias; projection aliases stand for the expressions that they name. The fragments of each
clause are the canonical texts that two statements are compared by.
-/

namespace SqlGrader

namespace Scope

/-- Brings a table into scope under the last part of its name and under its alias. -/
def withTable (s : Scope) (r : TableRef) : Scope :=
  let named := (Text.lowercase (TableRef.lastPart r.name), r.name) :: s.qualifiers
  { s with
    qualifiers := match r.aliasName with
      | some a => (Text.lowercase a, r.name) :: named
      | none => named }

/-- Brings the alias of a projection item into scope. -/
def withItem (s : Scope) (i : ProjectionItem) : Scope :=
  match i.aliasName with
  | some a =>
    { s with projectionAliases := (Text.lowercase a, i.expression) :: s.projectionAliases }
  | none => s

/-- The tables that a set of clauses refers to, in order. -/
def tablesOf (clauses : ClauseSet) : List TableRef :=
  let joined := clauses.joins.filterMap fun j => (Join.ofText? j).map Join.targetText
  (Items.ofText clauses.source ++ joined).filterMap TableRef.ofText?

/-- The names that a set of clauses brings into scope. -/
def ofClauses (clauses : ClauseSet) : Scope :=
  let tables := tablesOf clauses
  let scope := tables.foldl withTable
    { empty with singleTable := tables.length == 1 && clauses.joins.isEmpty }
  (ProjectionItem.ofProjection scope clauses.projection).foldl withItem scope

end Scope

structure Statement where
  clauses : ClauseSet
  scope : Scope
  deriving Repr, DecidableEq

namespace Statement

/-- The clauses of a text and the names that they bring into scope. -/
def ofText (sql : Text) : Statement :=
  let clauses := ClauseSet.ofStatement sql
  ⟨clauses, Scope.ofClauses clauses⟩

def projection (s : Statement) : List ProjectionItem :=
  ProjectionItem.ofProjection s.scope s.clauses.projection

/-- The names of the tables of the source clause. -/
def tables (s : Statement) : List Text :=
  (Items.ofText s.clauses.source).filterMap fun item => (TableRef.ofText? item).map (·.name)

/-- The canonical text of a join; that of a fragment where it has no `JOIN`. -/
def canonicalJoin (s : Statement) (join : Text) : Text :=
  match Join.ofText? join with
  | some j => j.canonical s.scope
  | none => s.scope.canonical false join

def joins (s : Statement) : List Text := s.clauses.joins.map s.canonicalJoin

/-- Whether no parenthesis closes without one that was opened in the list. -/
def closesOwn : (depth : Nat) → List Token → Bool
  | _, [] => true
  | depth, t :: ts =>
    match t.kind, depth with
    | .closeParen, 0 => false
    | _, _ => closesOwn (t.depthAfter depth) ts

/-- The condition without parentheses around the whole of it, as long as they hold one condition
only. -/
def withoutOuterParens (condition : Text) : Text :=
  let t := Text.trim condition
  match t with
  | '(' :: rest =>
    if rest.getLast? != some ')' then t
    else
      let inner := rest.dropLast
      match tokenize inner with
      | .error _ => t
      | .ok ts =>
        if closesOwn 0 ts && (Conditions.ofText inner).length == 1 then Text.trim inner else t
  | _ => t

/-- The canonical conditions of a clause text. -/
def conditions (s : Statement) (withAliases : Bool) (t : Text) : List Text :=
  (Conditions.ofText t).map fun c => s.scope.canonical withAliases (withoutOuterParens c)

/-- The canonical items of a clause text, projection aliases replaced. -/
def items (s : Statement) (t : Text) : List Text :=
  (Items.ofText t).map (s.scope.canonical true)

/-- The text without ` ASC` at its end, which is the default direction. -/
def withoutAscending (t : Text) : Text :=
  match Text.dropStart? "CSA ".toList t.reverse with
  | some rest => rest.reverse
  | none => t

/-- The canonical items of the ordering. -/
def ordering (s : Statement) : List Text := (s.items s.clauses.ordering).map withoutAscending

end Statement

end SqlGrader
