import SqlGrader.Proofs.Score.Renaming
import SqlGrader.Proofs.Sql.RenamedJoins
/-!
# Component match and the aliases of tables

A qualifier stands for the table that it names, and where one table is in scope it
stands for nothing. So a statement and the statement with the alias of a table
renamed, and all that it qualifies, have full scores.
-/

namespace SqlGrader

open Token Scope

variable {x y : Text} {ts : List Token} {c : ClauseSet} {s s' : Scope}

/-- Whether `x` is an alias of a table that stands nowhere else than where it qualifies a name. -/
structure TableAlias (x : Text) (c : ClauseSet) : Prop where
  /-- A table of the source or of a join has the alias. -/
  named : ∃ r ∈ tablesOf c, r.aliasName = some (Text.lowercase x)
  /-- In the source the name is an unquoted alias and nothing else. -/
  source : ∀ item ∈ Items.ofText c.source, OnlyAlias x (tokensOf item)
  /-- In these clauses the name is unquoted, a point after it and none before it. -/
  qualifies : ∀ kind ∈ [ClauseKind.projection, .filter, .grouping, .having, .ordering],
    Qualifies x (tokensOf (c.text kind))
  joins : ∀ join ∈ c.joins, ∀ j ∈ Join.ofText? join, j.KnowsAlias x
  limit : ∀ t ∈ tokensOf c.limit, ¬ t.Names x

/-- Whether no table is known by one of the two names as its own, and no join that holds them is cut
inside of quotes. -/
structure TableAlias.Apart (x y : Text) (c : ClauseSet) : Prop where
  names : ∀ r ∈ tablesOf c, ∀ z ∈ [x, y],
    Text.lowercase (TableRef.lastPart r.name) ≠ Text.lowercase z
  joins : ∀ join ∈ c.joins, ∀ j ∈ Join.ofText? join, Join.CutBetween x y join j

instance TableAlias.decidable (x : Text) (c : ClauseSet) : Decidable (TableAlias x c) :=
  decidable_of_iff
    ((∃ r ∈ tablesOf c, r.aliasName = some (Text.lowercase x)) ∧
      (∀ item ∈ Items.ofText c.source, OnlyAlias x (tokensOf item)) ∧
      (∀ kind ∈ [ClauseKind.projection, .filter, .grouping, .having, .ordering],
        Qualifies x (tokensOf (c.text kind))) ∧
      (∀ join ∈ c.joins, ∀ j ∈ Join.ofText? join, j.KnowsAlias x) ∧
      ∀ t ∈ tokensOf c.limit, ¬ t.Names x)
    ⟨fun ⟨a, b, c, d, e⟩ => ⟨a, b, c, d, e⟩, fun ⟨a, b, c, d, e⟩ => ⟨a, b, c, d, e⟩⟩

instance TableAlias.Apart.decidable (x y : Text) (c : ClauseSet) : Decidable (Apart x y c) :=
  decidable_of_iff
    ((∀ r ∈ tablesOf c, ∀ z ∈ [x, y],
        Text.lowercase (TableRef.lastPart r.name) ≠ Text.lowercase z) ∧
      ∀ join ∈ c.joins, ∀ j ∈ Join.ofText? join, Join.CutBetween x y join j)
    ⟨fun ⟨a, b⟩ => ⟨a, b⟩, fun ⟨a, b⟩ => ⟨a, b⟩⟩

/-- The table that a join text names. -/
def Join.table? (join : Text) : Option TableRef :=
  (ofText? join).bind fun j => TableRef.ofText? j.targetText

/-- The tables in scope are those of the source, and then those of the joins. -/
theorem Scope.tablesOf_eq_append (c : ClauseSet) :
    tablesOf c =
      (Items.ofText c.source).filterMap TableRef.ofText? ++ c.joins.filterMap Join.table? := by
  rw [tablesOf_eq, joinedTexts, List.filterMap_append, List.filterMap_filterMap]
  refine congrArg₂ (· ++ ·) rfl (List.filterMap_congr fun join _ => ?_)
  rw [Join.table?, Option.bind_map]
  rfl

theorem Statement.tables_eq (r : Statement) :
    r.tables = ((Items.ofText r.clauses.source).filterMap TableRef.ofText?).map (·.name) :=
  (List.map_filterMap ..).symm

namespace TableAlias

variable (renames : Renames x y ts) (isAlias : TableAlias x (ClauseSet.ofTokens ts))
  (apart : Apart x y (ClauseSet.ofTokens ts))
include renames isAlias apart

/-- The joins are renamed one by one. -/
theorem follows {join : List Token} (mem : join ∈ Section.joinTokens (Section.ofTokens ts)) :
    ∃ j k, Join.ofText? (render join) = some j ∧
      Join.ofText? (render (join.map (renamed x y))) = some k ∧ Join.Follows x y j k := by
  obtain ⟨within, shape⟩ := Section.of_mem_joinTokens mem
  have known : render join ∈ (ClauseSet.ofTokens ts).joins := by
    rw [ClauseSet.joins_ofTokens renames.clean.legible]
    exact List.mem_map_of_mem mem
  exact Join.exists_follows (renames.of_isInfix within) shape (isAlias.joins _ known)
    (apart.joins _ known)

/-- The new alias comes into the place of the old one among the tables. -/
theorem tablesOf_renamed :
    tablesOf (ClauseSet.ofTokens (ts.map (renamed x y))) =
      (tablesOf (ClauseSet.ofTokens ts)).map (TableRef.renamed x y) := by
  have source : ClauseKind.source ≠ .joins := by simp
  have tables := (ClauseSet.text_renamed renames source).tables isAlias.source
  rw [tablesOf_eq_append, tablesOf_eq_append, List.map_append]
  refine congrArg₂ (· ++ ·) tables ?_
  rw [ClauseSet.joins_renamed renames, ClauseSet.joins_ofTokens renames.clean.legible,
    List.filterMap_map, List.filterMap_map, List.map_filterMap]
  refine List.filterMap_congr fun join mem => ?_
  obtain ⟨j, k, left, right, follows⟩ := isAlias.follows renames apart mem
  simp only [Function.comp_apply, Join.table?, left, right, Option.bind_some, follows.table?]

/-- The new name is no alias of a table. -/
theorem tables_fresh :
    ∀ r ∈ tablesOf (ClauseSet.ofTokens ts), ∀ a ∈ r.aliasName,
      Text.lowercase a ≠ Text.lowercase y := by
  have source : ClauseKind.source ≠ .joins := by simp
  intro r mem
  rw [tablesOf_eq_append, ClauseSet.joins_ofTokens renames.clean.legible, List.filterMap_map] at mem
  rcases List.mem_append.mp mem with item | joined
  · exact (ClauseSet.text_renamed renames source).tables_fresh item
  · obtain ⟨join, inside, found⟩ := List.mem_filterMap.mp joined
    obtain ⟨j, k, left, -, follows⟩ := isAlias.follows renames apart inside
    rw [Function.comp_apply, Join.table?, left, Option.bind_some] at found
    exact follows.table?_fresh found

/-- The new alias stands for the table of the old one. -/
theorem renamesTable_ofTables :
    RenamesTable x y (ofTables (ClauseSet.ofTokens ts))
      (ofTables (ClauseSet.ofTokens (ts.map (renamed x y)))) := by
  refine Scope.renamesTable_ofTables (isAlias.tablesOf_renamed renames apart) ?_ isAlias.named
    apart.names (isAlias.tables_fresh renames apart)
  rw [ClauseSet.joins_renamed renames, ClauseSet.joins_ofTokens renames.clean.legible,
    List.isEmpty_map, List.isEmpty_map]

omit apart in
/-- The items of the projection are the same but for the qualifiers that they are written with. -/
theorem projection_eq (tables : RenamesTable x y s s') :
    ProjectionItem.ofProjection s' (ClauseSet.ofTokens (ts.map (renamed x y))).projection =
      (ProjectionItem.ofProjection s (ClauseSet.ofTokens ts).projection).map
        (ProjectionItem.renamed x y) := by
  have projection : ClauseKind.projection ≠ .joins := by simp
  have pair := ClauseSet.text_renamed renames projection
  have qualifies := isAlias.qualifies .projection (by simp)
  have item : ∀ item ∈ itemTexts (ClauseSet.ofTokens ts).projection, Qualifies x (tokensOf item) :=
    fun item mem => pair.qualifies_item qualifies mem
  refine pair.projection (fun i mem => (item i mem).ends (pair.renames_item mem).clean) ?_
  intro i mem
  have names := pair.renames_item mem
  exact tables.keepsStretches names (item i mem) false _ names.clean.stretch_splitEnd

theorem renamesTable :
    RenamesTable x y (ofClauses (ClauseSet.ofTokens ts))
      (ofClauses (ClauseSet.ofTokens (ts.map (renamed x y)))) := by
  have tables := isAlias.renamesTable_ofTables renames apart
  rw [ofClauses_eq, ofClauses_eq, isAlias.projection_eq renames tables]
  exact tables.withItems (projectionAliases_ofTables _) (projectionAliases_ofTables _) _

theorem joins_eq :
    (Statement.mk (.ofTokens (ts.map (renamed x y)))
        (ofClauses (.ofTokens (ts.map (renamed x y))))).joins =
      (Statement.mk (.ofTokens ts) (ofClauses (.ofTokens ts))).joins := by
  simp only [Statement.joins, ClauseSet.joins_renamed renames,
    ClauseSet.joins_ofTokens renames.clean.legible, List.map_map]
  refine List.map_congr_left fun join mem => ?_
  obtain ⟨j, k, left, right, follows⟩ := isAlias.follows renames apart mem
  simp only [Function.comp_apply, Statement.canonicalJoin, left, right]
  exact follows.canonical renames.first renames.second (isAlias.renamesTable renames apart)

/-- A statement and the statement with the alias renamed have the same fragments. -/
theorem agrees :
    (Statement.mk (.ofTokens ts) (ofClauses (.ofTokens ts))).Agrees
      (Statement.mk (.ofTokens (ts.map (renamed x y)))
        (ofClauses (.ofTokens (ts.map (renamed x y))))) := by
  have tables := isAlias.renamesTable renames apart
  have source : ClauseKind.source ≠ .joins := by simp
  have reads : ∀ kind ∈ [ClauseKind.filter, .grouping, .having, .ordering], ∀ withAliases,
      KeepsStretches x y (ofClauses (ClauseSet.ofTokens ts))
        (ofClauses (ClauseSet.ofTokens (ts.map (renamed x y)))) withAliases
          (tokensOf ((ClauseSet.ofTokens ts).text kind)) := by
    intro kind known withAliases
    have noJoins : kind ≠ .joins := by
      rintro rfl
      simp at known
    exact tables.keepsStretches (ClauseSet.text_renamed renames noJoins).renames
      (isAlias.qualifies kind (List.mem_cons_of_mem _ known)) withAliases
  refine Statement.agrees_of_renames renames rfl rfl (isAlias.projection_eq renames tables)
    ?_ (isAlias.joins_eq renames apart) (reads .filter (by simp) false) ?_ isAlias.limit
  · have items := (ClauseSet.text_renamed renames source).tables isAlias.source
    have names := congrArg (List.map TableRef.name) items
    rw [List.map_map] at names
    rw [Statement.tables_eq, Statement.tables_eq]
    exact names
  · intro kind known
    exact reads kind (List.mem_cons_of_mem _ known) true

end TableAlias

namespace ComponentMatch

/-- To rename an alias of a table changes no score. -/
theorem score_full_of_renamedTable {m : Type → Type} [Monad m] (c : Context m)
    (pair : RenamedStatement x y c.reference c.predicted ts)
    (isAlias : TableAlias x (ClauseSet.ofTokens ts))
    (apart : TableAlias.Apart x y (ClauseSet.ofTokens ts)) (plain : ∀ t ∈ ts, t.Plain)
    (plain' : ∀ t ∈ ts.map (renamed x y), t.Plain) :
    ∃ v, metric.score c = pure (.value v) ∧ v.score = 1.0 ∧ v.isCorrect = true ∧
      ∀ kind, (clauseScore kind (Statement.ofText c.reference) (Statement.ofText c.predicted) :
        Float) = 1.0 ∧ reportedScore? v kind = some 1.0 := by
  have renames := pair.renames plain plain'
  exact score_of_renames c pair renames (isAlias.agrees renames apart)

/-- The name qualifies columns of a join and of its condition. -/
theorem score_full_of_renamedTable_join :
    ∃ v, (metric (m := Id)).score
        ⟨"q", "SELECT x.a FROM t JOIN u AS x ON t.a = x.a".toList,
          "SELECT y.a FROM t JOIN u AS y ON t.a = y.a".toList, none⟩ = pure (.value v) ∧
      v.score = 1.0 ∧ v.isCorrect = true ∧
      ∀ kind, (clauseScore kind
        (Statement.ofText "SELECT x.a FROM t JOIN u AS x ON t.a = x.a".toList)
        (Statement.ofText "SELECT y.a FROM t JOIN u AS y ON t.a = y.a".toList) : Float) = 1.0 ∧
          reportedScore? v kind = some 1.0 :=
  have pair : RenamedStatement ['x'] ['y'] "SELECT x.a FROM t JOIN u AS x ON t.a = x.a".toList
      "SELECT y.a FROM t JOIN u AS y ON t.a = y.a".toList
      (tokensOf "SELECT x.a FROM t JOIN u AS x ON t.a = x.a".toList) := by
    decide +kernel
  score_full_of_renamedTable (m := Id)
    ⟨"q", "SELECT x.a FROM t JOIN u AS x ON t.a = x.a".toList,
      "SELECT y.a FROM t JOIN u AS y ON t.a = y.a".toList, none⟩
    pair (by decide +kernel) (by decide +kernel) (by decide +kernel) (by decide +kernel)

/-- Whether renaming an alias of a table changes the score. -/
def SeesTable (x y reference predicted : String) : Prop :=
  SeesName x y reference predicted ∧ TableAlias x.toList (.ofTokens (tokensOf reference.toList))

/-- Words that stand side by side are read as the name of a table, a join is cut inside of quotes,
and white space that is no gap but part of a word is trimmed off a condition. After a reserved word
a name is no alias. -/
theorem score_not_full_of_renamedTable :
    SeesTable "x" "bc" "SELECT x.a FROM t x, b c d" "SELECT bc.a FROM t bc, b c d" ∧
      SeesTable "x" "y" "SELECT 1 FROM t x JOIN \"a ON b\" ON x.i"
        "SELECT 1 FROM t y JOIN \"a ON b\" ON y.i" ∧
      SeesTable "x" "y" "SELECT 1 FROM t x, u WHERE \u00a0x.a = 1"
        "SELECT 1 FROM t y, u WHERE \u00a0x.a = 1" ∧
      SeesName "x" "y" "SELECT x.a FROM first x" "SELECT y.a FROM first y" := by
  unfold SeesTable SeesName
  decide +kernel

end ComponentMatch

end SqlGrader
