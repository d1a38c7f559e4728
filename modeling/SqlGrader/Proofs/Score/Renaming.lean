import SqlGrader.Proofs.Score.Agreement
import SqlGrader.Proofs.Sql.RenamedFragments
/-!
# Component match and renamed statements

A statement and a renamed one have the same fragments if their scopes read the
clauses alike, name by name. Then each clause has the full score.
-/

namespace SqlGrader

open Token Scope ComponentMatch

variable {x y r p : Text} {ts : List Token} {c d : ClauseSet} {s s' : Scope}

/-- Whether the first statement has the given tokens, and the second one the same tokens with the
new name `y` in the place of the name `x`. -/
structure RenamedStatement (x y r p : Text) (ts : List Token) : Prop where
  first : IsName x
  second : IsName y
  left : tokenize r = .ok ts
  right : tokenize p = .ok (ts.map (renamed x y))
  fresh : ∀ t ∈ ts, ¬ t.Names y
  /-- The clauses are read from the tokens. -/
  core : (ClauseSet.ofTokens ts).hasCore

instance (x y r p : Text) (ts : List Token) : Decidable (RenamedStatement x y r p ts) :=
  decidable_of_iff
    (IsName x ∧ IsName y ∧ tokenize r = .ok ts ∧ tokenize p = .ok (ts.map (renamed x y)) ∧
      (∀ t ∈ ts, ¬ t.Names y) ∧ (ClauseSet.ofTokens ts).hasCore)
    ⟨fun ⟨a, b, c, d, e, f⟩ => ⟨a, b, c, d, e, f⟩, fun ⟨a, b, c, d, e, f⟩ => ⟨a, b, c, d, e, f⟩⟩

/-- Where white space is in quotes only, all parts of the statement are renamed. -/
theorem RenamedStatement.renames (pair : RenamedStatement x y r p ts)
    (plain : ∀ t ∈ ts, t.Plain) (plain' : ∀ t ∈ ts.map (renamed x y), t.Plain) :
    Renames x y ts :=
  ⟨pair.first, pair.second, ⟨legible_of_tokenize pair.left, plain⟩,
    ⟨legible_of_tokenize pair.right, plain'⟩, pair.fresh⟩

namespace Statement

/-- A statement whose clauses are read from its tokens. -/
theorem ofText_of_tokenize (read : tokenize r = .ok ts) (core : (ClauseSet.ofTokens ts).hasCore) :
    ofText r = ⟨.ofTokens ts, ofClauses (.ofTokens ts)⟩ := by
  rw [ofText, ClauseSet.ofStatement, read]
  simp only [core, if_true]

/-- The canonical text of a join depends on how its condition is read. -/
theorem canonicalJoin_congr (same : ∀ t, s'.canonical false t = s.canonical false t)
    (join : Text) : (mk d s').canonicalJoin join = (mk c s).canonicalJoin join := by
  unfold canonicalJoin
  split
  · simp only [Join.canonical, same]
  · exact same join

/-- Scopes that read the clauses alike make statements that agree. -/
theorem agrees_of_renames (renames : Renames x y ts) (left : c = .ofTokens ts)
    (right : d = .ofTokens (ts.map (renamed x y)))
    (projection : ProjectionItem.ofProjection s' d.projection =
      (ProjectionItem.ofProjection s c.projection).map (ProjectionItem.renamed x y))
    (tables : (Statement.mk d s').tables = (Statement.mk c s).tables)
    (joins : (Statement.mk d s').joins = (Statement.mk c s).joins)
    (filter : KeepsStretches x y s s' false (tokensOf c.filter))
    (aliased : ∀ kind ∈ [ClauseKind.grouping, .having, .ordering],
      KeepsStretches x y s s' true (tokensOf (c.text kind)))
    (limit : ∀ t ∈ tokensOf c.limit, ¬ t.Names x) :
    (Statement.mk c s).Agrees (Statement.mk d s') := by
  have text : ∀ kind, kind ≠ .joins → RenamedText x y (c.text kind) (d.text kind) := by
    intro kind noJoins
    rw [left, right]
    exact ClauseSet.text_renamed renames noJoins
  constructor
  · intro kind
    show c.isPresent kind = d.isPresent kind
    rw [left, right, ClauseSet.isPresent_renamed renames]
  · show (ProjectionItem.ofProjection s c.projection).map credited =
      (ProjectionItem.ofProjection s' d.projection).map credited
    rw [projection, List.map_map]
    refine List.map_congr_left fun i _ => ?_
    simp [credited, ProjectionItem.renamed]
  · exact tables.symm
  · exact joins.symm
  · exact ((text .filter (by simp)).conditions filter).symm
  · exact ((text .having (by simp)).conditions (aliased .having (by simp))).symm
  · exact ((text .grouping (by simp)).items (aliased .grouping (by simp))).symm
  · have items := (text .ordering (by simp)).items (aliased .ordering (by simp))
    exact congrArg (List.map withoutAscending) items.symm
  · have same : d.limit = c.limit := (text .limit (by simp)).eq_of_absent limit
    show sameLimit c.limit d.limit
    rw [same]
    exact sameLimit_self c.limit

end Statement

/-- Whether renaming `x` changes the score. -/
def ComponentMatch.SeesName (x y reference predicted : String) : Prop :=
  let c : Context Id := ⟨"q", reference.toList, predicted.toList, none⟩
  RenamedStatement x.toList y.toList c.reference c.predicted (tokensOf c.reference) ∧
    (metric.evaluate c).score ≠ 1.0

/-- Renamed statements that agree have full scores. -/
theorem ComponentMatch.score_of_renames {m : Type → Type} [Monad m] (c : Context m)
    (pair : RenamedStatement x y c.reference c.predicted ts) (renames : Renames x y ts)
    (agrees : (Statement.mk (.ofTokens ts) (ofClauses (.ofTokens ts))).Agrees
      (Statement.mk (.ofTokens (ts.map (renamed x y)))
        (ofClauses (.ofTokens (ts.map (renamed x y)))))) :
    ∃ v, metric.score c = pure (.value v) ∧ v.score = 1.0 ∧ v.isCorrect = true ∧
      ∀ kind, (clauseScore kind (Statement.ofText c.reference) (Statement.ofText c.predicted) :
        Float) = 1.0 ∧ reportedScore? v kind = some 1.0 := by
  have core' := (ClauseSet.hasCore_renamed renames).trans pair.core
  refine score_of_agrees c (ClauseSet.not_isAllBlank pair.left pair.core)
    (ClauseSet.not_isAllBlank pair.right core') ?_
  rw [Statement.ofText_of_tokenize pair.left pair.core,
    Statement.ofText_of_tokenize pair.right core']
  exact agrees

end SqlGrader
