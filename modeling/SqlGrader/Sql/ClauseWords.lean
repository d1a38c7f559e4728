import SqlGrader.Sql.Section
/-!
# Clauses found by their words

Where a statement has no tokens, or its sections hold nothing to compare, clauses are found in the
normal form that is read word by word: each clause goes from the words that open it to the next such
words, parentheses or not. The words are whole words in any letter case.

A clause is told by the letters of its first word. Where these fold to a clause keyword but are not
its ASCII letters, the clause counts as a join.
-/

namespace SqlGrader.ClauseWords

/-- The number of runs from a word through a following blank gap to the word `next`. -/
def throughNext? (next : String) : List Run → Option Nat
  | _ :: gap :: r :: _ => if gap.isBlankGap && r.isWordText next.toList then some 3 else none
  | _ => none

/-- The number of runs of `OUTER JOIN` or `JOIN`, where the runs start so. -/
def outerJoin? : List Run → Option Nat
  | [] => none
  | r :: rs =>
    if r.isWordText "OUTER".toList then throughNext? "JOIN" (r :: rs)
    else if r.isWordText "JOIN".toList then some 1 else none

/-- Words that may stand before `OUTER JOIN` or `JOIN`. -/
def joinModifiers : List String := ["INNER", "LEFT", "RIGHT", "FULL", "CROSS", "NATURAL"]

/-- The number of runs of the words of a join, where the runs start so. -/
def joinWords? : List Run → Option Nat
  | [] => none
  | r :: rs =>
    if joinModifiers.any fun w => r.isWordText w.toList then
      match rs with
      | gap :: rest => if gap.isBlankGap then (outerJoin? rest).map (· + 2) else none
      | [] => none
    else outerJoin? (r :: rs)

/-- The number of runs of the words that open a clause, where the runs start so. -/
def openingWords? : List Run → Option Nat
  | [] => none
  | r :: rs =>
    if ["SELECT", "FROM", "WHERE", "HAVING", "LIMIT"].any fun w => r.isWordText w.toList then some 1
    else if ["GROUP", "ORDER"].any fun w => r.isWordText w.toList then throughNext? "BY" (r :: rs)
    else joinWords? (r :: rs)

/-- The clause that a first word opens. -/
def kindOf (word : Text) : ClauseKind :=
  let w := String.ofList (Text.upper word)
  if w = "SELECT" then .projection
  else if w = "FROM" then .source
  else if w = "WHERE" then .filter
  else if w = "GROUP" then .grouping
  else if w = "HAVING" then .having
  else if w = "ORDER" then .ordering
  else if w = "LIMIT" then .limit
  else .joins

/-- The text up to the next clause, and the clauses from there on with their texts. -/
def partsFrom : List Run → Text × List (ClauseKind × Text)
  | [] => ([], [])
  | r :: rs =>
    match openingWords? (r :: rs) with
    | some n =>
      let kind := kindOf r.text
      let opening := if kind = .joins then Run.toText ((r :: rs).take n) else []
      let (body, later) := partsFrom (rs.drop (n - 1))
      ([], (kind, Text.trim (opening ++ body)) :: later)
    | none =>
      let (body, later) := partsFrom rs
      (r.text ++ body, later)
termination_by rs => rs.length
decreasing_by all_goals simp only [List.length_drop, List.length_cons]; omega

/-- The clauses of a statement that is read word by word. -/
def clauses (sql : Text) : ClauseSet :=
  .ofParts .wordwise (partsFrom (Run.ofText (Wordwise.normalize sql))).2

end SqlGrader.ClauseWords

namespace SqlGrader

/-- The clauses of a statement, from its tokens where they hold something to compare. -/
def ClauseSet.ofStatement (sql : Text) : ClauseSet :=
  match tokenize sql with
  | .ok ts =>
    let clauses := ClauseSet.ofTokens ts
    if clauses.hasCore then clauses else ClauseWords.clauses sql
  | .error _ => ClauseWords.clauses sql

end SqlGrader
