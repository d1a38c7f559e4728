import SqlGrader.Sql.Clause
/-!
# Sections of a token list

The tokens of a statement from its first clause keyword to the end of its first query fall into
consecutive sections. Each is opened by a boundary, the words that introduce a clause, and goes on
to the next boundary. Boundaries, and the words and semicolons that end the query, count only
outside of parentheses, so nothing inside a subquery or a call opens a section.

Tokens before the first boundary belong to no section.
-/

namespace SqlGrader

/-- What a section is kept for. -/
inductive Slot
  | clause (kind : ClauseKind)
  /-- A section that no clause is read from, such as the definitions of windows. -/
  | unscored
  deriving Repr, DecidableEq

/-- The words that open a section: how many tokens they are, and whether the text of the section
keeps them. -/
structure Boundary where
  slot : Slot
  width : Nat
  kept : Bool
  deriving Repr, DecidableEq

/-- A boundary, the tokens that it is made of, and the tokens up to the next one. -/
structure Section where
  boundary : Boundary
  opening : List Token
  body : List Token
  deriving Repr, DecidableEq

namespace Boundary

/-- Words that may stand before `JOIN` and belong to it. -/
def joinModifiers : List String :=
  ["INNER", "LEFT", "RIGHT", "FULL", "CROSS", "NATURAL", "OUTER"]

def isJoinModifier (t : Token) : Bool := t.isAnyWord joinModifiers

/-- The number of tokens of `JOIN` with the modifiers before it, where the list starts so. -/
def joinWidth? (ts : List Token) : Option Nat :=
  let modifiers := ts.takeWhile isJoinModifier
  match ts.drop modifiers.length with
  | t :: _ => if t.isWord "JOIN" then some (modifiers.length + 1) else none
  | [] => none

/-- Whether table names stand in the section, so that a join may follow them. -/
def listsTables : Option Slot → Bool
  | some (.clause .source) => true
  | some (.clause .joins) => true
  | _ => false

/-- The boundary at the token `t`, which the tokens `ts` follow, inside of the section `current`. -/
def at? (current : Option Slot) (t : Token) (ts : List Token) : Option Boundary :=
  let byFollows := ts.head?.any (·.isWord "BY")
  if t.isWord "SELECT" && current.isNone then some ⟨.clause .projection, 1, false⟩
  else if t.isWord "FROM" then some ⟨.clause .source, 1, false⟩
  else if t.isWord "WHERE" then some ⟨.clause .filter, 1, false⟩
  else if t.isWord "GROUP" && byFollows then some ⟨.clause .grouping, 2, false⟩
  else if t.isWord "HAVING" then some ⟨.clause .having, 1, false⟩
  else if t.isWord "ORDER" && byFollows then some ⟨.clause .ordering, 2, false⟩
  else if t.isWord "LIMIT" then some ⟨.clause .limit, 1, false⟩
  else if t.isAnyWord ["OFFSET", "FETCH"] && current != some (.clause .limit) then
    some ⟨.clause .limit, 1, true⟩
  else if t.isWord "WINDOW" then some ⟨.unscored, 1, false⟩
  else if (listsTables current && isJoinModifier t) || t.isWord "JOIN" then
    (joinWidth? (t :: ts)).map fun n => ⟨.clause .joins, n, true⟩
  else none

end Boundary

namespace Section

/-- Whether the token ends the query that the sections belong to. -/
def endsQuery (t : Token) : Bool :=
  NormalForm.isTerminator t || t.isAnyWord ["UNION", "INTERSECT", "EXCEPT"]

/-- The tokens that still belong to the section `current`, and the sections after it. -/
def splitFrom (current : Option Slot) (depth : Nat) : List Token → List Token × List Section
  | [] => ([], [])
  | t :: ts =>
    if t.isParen || depth != 0 then
      let (body, later) := splitFrom current (t.depthAfter depth) ts
      (t :: body, later)
    else if current.isSome && endsQuery t then ([], [])
    else match Boundary.at? current t ts with
      | some b =>
        let (body, later) := splitFrom (some b.slot) depth (ts.drop (b.width - 1))
        ([], ⟨b, (t :: ts).take b.width, body⟩ :: later)
      | none =>
        let (body, later) := splitFrom current depth ts
        (t :: body, later)
termination_by ts => ts.length
decreasing_by all_goals simp only [List.length_drop, List.length_cons]; omega

/-- The sections of a statement. -/
def ofTokens (ts : List Token) : List Section := (splitFrom none 0 ts).2

/-- The tokens that make the text of the section. -/
def content (s : Section) : List Token :=
  if s.boundary.kept then s.opening ++ s.body else s.body

/-- The clause that the section is, with its text. -/
def part? (s : Section) : Option (ClauseKind × Text) :=
  match s.boundary.slot with
  | .clause kind => some (kind, Token.render s.content)
  | .unscored => none

end Section

/-- The clauses of the sections of a token list. -/
def ClauseSet.ofTokens (ts : List Token) : ClauseSet :=
  .ofParts .tokens ((Section.ofTokens ts).filterMap Section.part?)

end SqlGrader
