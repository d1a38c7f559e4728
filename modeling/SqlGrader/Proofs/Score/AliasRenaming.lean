import SqlGrader.Proofs.Score.Renaming
/-!
# Component match and the aliases of projection items

A projection item is credited for having an alias, whatever the alias is, and what
refers to the alias is replaced by the expression that it names. So a statement
and the statement with one alias renamed, and all that refers to it, have full
scores.
-/

namespace SqlGrader

open Token Scope

variable {x y : Text} {ts : List Token} {s s' : Scope}

/-- Whether `x` is an alias of the projection that stands nowhere else than where a reference to it
may stand. -/
structure ProjectionAlias (x : Text) (c : ClauseSet) : Prop where
  /-- An item of the projection has the alias. -/
  named : ∃ item ∈ itemTexts c.projection,
    (Alias.splitEnd (tokensOf item)).2 = some (Text.lowercase x)
  /-- In the projection the name is an unquoted alias and nothing else. -/
  items : ∀ item ∈ itemTexts c.projection, OnlyAlias x (tokensOf item)
  /-- In these clauses the name is unquoted, has no point next to it and no parenthesis after it. -/
  refers : ∀ kind ∈ [ClauseKind.grouping, .having, .ordering], Refers x (tokensOf (c.text kind))
  absent : ∀ kind ∈ [ClauseKind.source, .filter, .limit], ∀ t ∈ tokensOf (c.text kind), ¬ t.Names x
  joins : ∀ join ∈ c.joins, ∀ t ∈ tokensOf join, ¬ t.Names x

namespace ProjectionAlias

instance decidable (x : Text) (c : ClauseSet) : Decidable (ProjectionAlias x c) :=
  decidable_of_iff
    ((∃ item ∈ itemTexts c.projection,
        (Alias.splitEnd (tokensOf item)).2 = some (Text.lowercase x)) ∧
      (∀ item ∈ itemTexts c.projection, OnlyAlias x (tokensOf item)) ∧
      (∀ kind ∈ [ClauseKind.grouping, .having, .ordering], Refers x (tokensOf (c.text kind))) ∧
      (∀ kind ∈ [ClauseKind.source, .filter, .limit], ∀ t ∈ tokensOf (c.text kind), ¬ t.Names x) ∧
      ∀ join ∈ c.joins, ∀ t ∈ tokensOf join, ¬ t.Names x)
    ⟨fun ⟨a, b, c, d, e⟩ => ⟨a, b, c, d, e⟩, fun ⟨a, b, c, d, e⟩ => ⟨a, b, c, d, e⟩⟩

variable (renames : Renames x y ts) (isAlias : ProjectionAlias x (ClauseSet.ofTokens ts))
include renames isAlias

theorem source_eq :
    (ClauseSet.ofTokens (ts.map (renamed x y))).source = (ClauseSet.ofTokens ts).source := by
  have source : ClauseKind.source ≠ .joins := by simp
  exact (ClauseSet.text_renamed renames source).eq_of_absent (isAlias.absent .source (by simp))

theorem joins_eq :
    (ClauseSet.ofTokens (ts.map (renamed x y))).joins = (ClauseSet.ofTokens ts).joins := by
  have joins := ClauseSet.joins_ofTokens renames.clean.legible
  rw [ClauseSet.joins_renamed renames, joins]
  refine List.map_congr_left fun join mem => ?_
  have part := renames.of_isInfix (Section.of_mem_joinTokens mem).1
  refine (RenamedText.of_renames part).eq_of_absent (isAlias.joins _ ?_)
  rw [joins]
  exact List.mem_map_of_mem mem

theorem ofTables_eq :
    ofTables (ClauseSet.ofTokens (ts.map (renamed x y))) = ofTables (ClauseSet.ofTokens ts) := by
  simp only [ofTables, tablesOf, isAlias.source_eq renames, isAlias.joins_eq renames]

omit isAlias in
theorem text_projection :
    RenamedText x y (ClauseSet.ofTokens ts).projection
      (ClauseSet.ofTokens (ts.map (renamed x y))).projection := by
  have projection : ClauseKind.projection ≠ .joins := by simp
  exact ClauseSet.text_renamed renames projection

/-- The new alias comes into the place of the old one among the items of the projection. -/
theorem projection_eq (aligned : Aligned x y s s') :
    ProjectionItem.ofProjection s' (ClauseSet.ofTokens (ts.map (renamed x y))).projection =
      (ProjectionItem.ofProjection s (ClauseSet.ofTokens ts).projection).map
        (ProjectionItem.renamed x y) := by
  have pair := text_projection renames
  refine pair.projection (fun item mem => (isAlias.items item mem).ends renames.first) ?_
  intro item mem
  have names := pair.renames_item mem
  have body := names.of_isInfix names.clean.stretch_splitEnd.isInfix
  exact aligned.keepsStretches body (isAlias.items item mem).body false _ (.refl _)

/-- The scope of the renamed statement, its tables and its items. -/
theorem ofClauses_renamed :
    ofClauses (ClauseSet.ofTokens (ts.map (renamed x y))) =
      ((ProjectionItem.ofProjection (ofTables (ClauseSet.ofTokens ts))
        (ClauseSet.ofTokens ts).projection).map (ProjectionItem.renamed x y)).foldl withItem
          (ofTables (ClauseSet.ofTokens ts)) := by
  rw [ofClauses_eq, isAlias.ofTables_eq renames, isAlias.projection_eq renames (.refl x y _)]

/-- The new alias stands for the expression of the old one. -/
theorem renamesExpression :
    RenamesExpression x y (ofClauses (ClauseSet.ofTokens ts))
      (ofClauses (ClauseSet.ofTokens (ts.map (renamed x y)))) := by
  have none := projectionAliases_ofTables (ClauseSet.ofTokens ts)
  have pair := text_projection renames
  have same : Aligned x y (ofTables (ClauseSet.ofTokens ts)) (ofTables (ClauseSet.ofTokens ts)) :=
    .refl x y _
  rw [isAlias.ofClauses_renamed renames, ofClauses_eq]
  refine same.renamesExpression none none ?_ fun i mem => pair.aliases_fresh mem
  obtain ⟨item, mem, named⟩ := isAlias.named
  refine ⟨itemOf (ofTables (ClauseSet.ofTokens ts)) (tokensOf item), ?_, named⟩
  rw [pair.projection_eq]
  exact List.mem_append_right _ (List.mem_map_of_mem mem)

/-- The alias occurs in no join, so joins are read as they are. -/
theorem canonicalJoins_eq :
    (Statement.mk (.ofTokens (ts.map (renamed x y)))
        (ofClauses (.ofTokens (ts.map (renamed x y))))).joins =
      (Statement.mk (.ofTokens ts) (ofClauses (.ofTokens ts))).joins := by
  have same : ∀ t, (ofClauses (ClauseSet.ofTokens (ts.map (renamed x y)))).canonical false t =
      (ofClauses (ClauseSet.ofTokens ts)).canonical false t := by
    rw [isAlias.ofClauses_renamed renames, ofClauses_eq, foldl_withItem, foldl_withItem]
    exact canonical_of_tables rfl rfl
  simp only [Statement.joins, isAlias.joins_eq renames]
  exact List.map_congr_left fun join _ => Statement.canonicalJoin_congr same join

/-- A statement and the statement with the alias renamed have the same fragments. -/
theorem agrees :
    (Statement.mk (.ofTokens ts) (ofClauses (.ofTokens ts))).Agrees
      (Statement.mk (.ofTokens (ts.map (renamed x y)))
        (ofClauses (.ofTokens (ts.map (renamed x y))))) := by
  have expressions := isAlias.renamesExpression renames
  have text : ∀ kind ≠ .joins, Renames x y (tokensOf ((ClauseSet.ofTokens ts).text kind)) :=
    fun kind noJoins => (ClauseSet.text_renamed renames noJoins).renames
  refine Statement.agrees_of_renames renames rfl rfl
    (isAlias.projection_eq renames expressions.aligned) ?_ (isAlias.canonicalJoins_eq renames) ?_ ?_
    (isAlias.absent .limit (by simp))
  · simp only [Statement.tables, isAlias.source_eq renames]
  · exact expressions.aligned.keepsStretches (text .filter (by simp))
      (isAlias.absent .filter (by simp)) false
  · intro kind known
    refine expressions.keepsStretches (text kind ?_) (isAlias.refers kind known)
    rintro rfl
    simp at known

end ProjectionAlias

namespace ComponentMatch

/-- To rename an alias of the projection changes no score. -/
theorem score_full_of_renamedAlias {m : Type → Type} [Monad m] (c : Context m)
    (pair : RenamedStatement x y c.reference c.predicted ts)
    (isAlias : ProjectionAlias x (ClauseSet.ofTokens ts)) (plain : ∀ t ∈ ts, t.Plain)
    (plain' : ∀ t ∈ ts.map (renamed x y), t.Plain) :
    ∃ v, metric.score c = pure (.value v) ∧ v.score = 1.0 ∧ v.isCorrect = true ∧
      ∀ kind, (clauseScore kind (Statement.ofText c.reference) (Statement.ofText c.predicted) :
        Float) = 1.0 ∧ reportedScore? v kind = some 1.0 := by
  have renames := pair.renames plain plain'
  exact score_of_renames c pair renames (isAlias.agrees renames)

/-- The name that the ordering refers to. -/
theorem score_full_of_renamedAlias_ordering :
    ∃ v, (metric (m := Id)).score
        ⟨"q", "SELECT a AS x FROM t ORDER BY x".toList, "SELECT a AS y FROM t ORDER BY y".toList,
          none⟩ = pure (.value v) ∧
      v.score = 1.0 ∧ v.isCorrect = true ∧
      ∀ kind, (clauseScore kind (Statement.ofText "SELECT a AS x FROM t ORDER BY x".toList)
        (Statement.ofText "SELECT a AS y FROM t ORDER BY y".toList) : Float) = 1.0 ∧
          reportedScore? v kind = some 1.0 :=
  have pair : RenamedStatement ['x'] ['y'] "SELECT a AS x FROM t ORDER BY x".toList
      "SELECT a AS y FROM t ORDER BY y".toList
      (tokensOf "SELECT a AS x FROM t ORDER BY x".toList) := by
    decide +kernel
  score_full_of_renamedAlias (m := Id)
    ⟨"q", "SELECT a AS x FROM t ORDER BY x".toList, "SELECT a AS y FROM t ORDER BY y".toList, none⟩
    pair (by decide +kernel) (by decide +kernel) (by decide +kernel)

/-- Whether renaming an alias of the projection changes the score. -/
def SeesAlias (x y reference predicted : String) : Prop :=
  SeesName x y reference predicted ∧
    ProjectionAlias x.toList (.ofTokens (tokensOf reference.toList))

/-- White space that is no gap but part of a word is trimmed off a condition, which then refers to
the alias, and off an item, which then has none. After a reserved word a name is no alias. -/
theorem score_not_full_of_renamedAlias :
    SeesAlias "x" "y" "SELECT a AS x FROM t HAVING \u00a0x > 1"
        "SELECT a AS y FROM t HAVING \u00a0x > 1" ∧
      SeesAlias "x" "\u00a0" "SELECT a x FROM t" "SELECT a \u00a0 FROM t" ∧
      SeesName "x" "y" "SELECT NULL x FROM t" "SELECT NULL y FROM t" := by
  unfold SeesAlias SeesName
  decide +kernel

end ComponentMatch

end SqlGrader
