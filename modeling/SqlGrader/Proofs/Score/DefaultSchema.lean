import SqlGrader.Proofs.Score.TableRenaming
import SqlGrader.Proofs.Sql.SchemaClauses
/-!
# The default schema

The default schema says nothing about a table: a statement and the same one with the schema before
some of its table names have full scores. Only what the source lists and what a join names counts
as a table. Behind the first table of a join no other one is looked for, and a name is trimmed
where a join is read.
-/

namespace SqlGrader

open Token Scope ComponentMatch

variable {r p : Text} {c d : ClauseSet}

namespace SameReading

variable {a b : Text}

theorem table? (same : SameReading .joins a b) : Join.table? b = Join.table? a := by
  rcases same with rfl | ⟨x, y, left, right, same⟩
  · rfl
  · rw [Join.table?, Join.table?, left, right]
    exact same.table

theorem canonicalJoin (same : SameReading .joins a b) (s : Scope) :
    (Statement.mk d s).canonicalJoin b = (Statement.mk c s).canonicalJoin a := by
  rcases same with rfl | ⟨x, y, left, right, same⟩
  · rfl
  · rw [Statement.canonicalJoin, Statement.canonicalJoin, left, right]
    exact same.canonical s

end SameReading

/-- Sets of clauses that are read to the same, one by one. -/
structure ClauseSet.ReadsSame (c d : ClauseSet) : Prop where
  text (kind : ClauseKind) (noJoins : kind ≠ .joins) : SameReading kind (c.text kind) (d.text kind)
  joins : List.Forall₂ (SameReading .joins) c.joins d.joins
  present (kind : ClauseKind) : c.isPresent kind = d.isPresent kind

namespace ClauseSet.ReadsSame

variable (same : c.ReadsSame d)
include same

theorem map_joins {α : Type} {f : Text → α}
    (blind : ∀ a b, SameReading .joins a b → f b = f a) : d.joins.map f = c.joins.map f := by
  have pairs : List.Forall₂ (· = ·) (d.joins.map f) (c.joins.map f) := by
    rw [List.forall₂_map_left_iff, List.forall₂_map_right_iff]
    exact (same.joins.imp blind).flip
  rwa [List.forall₂_eq_eq_eq] at pairs

theorem tablesOf_eq : tablesOf d = tablesOf c := by
  have source : (Items.ofText d.source).filterMap TableRef.ofText? =
      (Items.ofText c.source).filterMap TableRef.ofText? := same.text .source (by simp)
  have joins : d.joins.filterMap Join.table? = c.joins.filterMap Join.table? := by
    have tables := congrArg (List.filterMap id) (same.map_joins fun _ _ join => join.table?)
    rwa [List.filterMap_map, List.filterMap_map] at tables
  rw [tablesOf_eq_append, tablesOf_eq_append, source, joins]

theorem ofClauses_eq : ofClauses d = ofClauses c := by
  have joins : c.joins.isEmpty = d.joins.isEmpty := by simpa [isPresent] using same.present .joins
  have projection : d.projection = c.projection := same.text .projection (by simp)
  simp only [Scope.ofClauses, same.tablesOf_eq, joins, projection]

theorem agrees : (Statement.mk c (ofClauses c)).Agrees (Statement.mk d (ofClauses d)) := by
  have projection : d.projection = c.projection := same.text .projection (by simp)
  have filter : d.filter = c.filter := same.text .filter (by simp)
  have having' : d.having = c.having := same.text .having (by simp)
  have grouping : d.grouping = c.grouping := same.text .grouping (by simp)
  have ordering : d.ordering = c.ordering := same.text .ordering (by simp)
  have limit : d.limit = c.limit := same.text .limit (by simp)
  rw [same.ofClauses_eq]
  constructor
  · exact same.present
  · simp only [Statement.projection, projection]
  · rw [Statement.tables_eq, Statement.tables_eq]
    exact congrArg (List.map TableRef.name) (same.text .source (by simp)).symm
  · exact (same.map_joins fun _ _ join => join.canonicalJoin _).symm
  · simp only [Statement.conditions, filter]
  · simp only [Statement.conditions, having']
  · simp only [Statement.items, grouping]
  · simp only [Statement.ordering, Statement.items, ordering]
  · show sameLimit c.limit d.limit
    rw [limit]
    exact sameLimit_self c.limit

end ClauseSet.ReadsSame

/-- A statement `r`, and the same one with the default schema before some of its table names. -/
structure DefaultSchema (r p : Text) where
  ts : List Token
  us : List Token
  left : tokenize r = .ok ts
  right : tokenize p = .ok us
  /-- The clauses are read from the tokens. -/
  core : (ClauseSet.ofTokens ts).hasCore
  sections : List Section
  written : List.Forall₂ Section.SchemaWritten (Section.ofTokens ts) sections
  /-- What follows the query of the sections. -/
  rest : List Token
  rest' : List Token
  whole : ts = (Section.splitFrom none 0 ts).1 ++
    ((Section.ofTokens ts).flatMap Section.tokens ++ rest)
  whole' : us = (Section.splitFrom none 0 ts).1 ++ (sections.flatMap Section.tokens ++ rest')
  after : Prefixed rest rest'

namespace DefaultSchema

variable (edit : DefaultSchema r p)
include edit

theorem sections_eq : Section.ofTokens edit.us = edit.sections := by
  have start : Section.splitFrom none 0 edit.ts =
      ((Section.splitFrom none 0 edit.ts).1, Section.ofTokens edit.ts) := rfl
  have split := Section.splitFrom_prefixed start edit.whole (.refl _)
    (edit.written.imp fun _ _ pair => pair.prefixed) edit.after
  rw [← edit.whole'] at split
  exact congrArg Prod.snd split

theorem readsSame : (ClauseSet.ofTokens edit.ts).ReadsSame (ClauseSet.ofTokens edit.us) := by
  have pairs := edit.written
  rw [← edit.sections_eq] at pairs
  have parts := ClauseSet.parts_schemaWritten (legible_of_tokenize edit.left)
    (legible_of_tokenize edit.right) pairs
  obtain ⟨texts, joins⟩ := ClauseSet.related_ofParts .tokens parts fun kind _ => .refl kind []
  exact ⟨texts, joins, ClauseSet.isPresent_related .tokens parts⟩

end DefaultSchema

namespace ComponentMatch

/-- To write the default schema before names of tables changes no score. -/
theorem score_full_of_defaultSchema {m : Type → Type} [Monad m] (c : Context m)
    (edit : DefaultSchema c.reference c.predicted) :
    ∃ v, metric.score c = pure (.value v) ∧ v.score = 1.0 ∧ v.isCorrect = true ∧
      ∀ kind, (clauseScore kind (Statement.ofText c.reference) (Statement.ofText c.predicted) :
        Float) = 1.0 ∧ reportedScore? v kind = some 1.0 := by
  have core : (ClauseSet.ofTokens edit.us).hasCore :=
    (ClauseSet.hasCore_congr edit.readsSame.present).symm.trans edit.core
  refine score_of_agrees c (ClauseSet.not_isAllBlank edit.left edit.core)
    (ClauseSet.not_isAllBlank edit.right core) ?_
  rw [Statement.ofText_of_tokenize edit.left edit.core,
    Statement.ofText_of_tokenize edit.right core]
  exact edit.readsSame.agrees

/-- A statement that lists tables, joins one and goes on with another query. -/
def plainTables : Text :=
  "SELECT a FROM t m, u JOIN v AS w ON w.i = m.i UNION SELECT b FROM x".toList

def schemaTables : Text :=
  "SELECT a FROM public.t m, u JOIN Public. v AS w ON w.i = m.i UNION SELECT b FROM public.x".toList

/-- The condition of the join. -/
def onEqual : List Token := marked true (tokensOf "ON w.i = m.i".toList)

/-- The schema is written before the first item of the source, before the table that is joined, and
in the other query. -/
def schemaWrittenThrice : DefaultSchema plainTables schemaTables where
  ts := tokensOf plainTables
  us := tokensOf schemaTables
  left := by decide +kernel
  right := by decide +kernel
  core := by decide +kernel
  sections :=
    [⟨⟨.clause .projection, 1, false⟩, tokensOf "SELECT".toList, [spacedWord "a"]⟩,
      ⟨⟨.clause .source, 1, false⟩, [spacedWord "FROM"],
        [spacedWord "public", ⟨.symbol, ['.'], false⟩, { spacedWord "t" with spaced := false },
          spacedWord "m"] ++ ⟨.comma, [','], false⟩ :: [spacedWord "u"]⟩,
      ⟨⟨.clause .joins, 1, true⟩, [spacedWord "JOIN"],
        [spacedWord "Public", ⟨.symbol, ['.'], false⟩, spacedWord "v", spacedWord "AS",
          spacedWord "w"] ++ onEqual⟩]
  written := by
    have sections : Section.ofTokens (tokensOf plainTables) =
        [⟨⟨.clause .projection, 1, false⟩, tokensOf "SELECT".toList, [spacedWord "a"]⟩,
          ⟨⟨.clause .source, 1, false⟩, [spacedWord "FROM"],
            [spacedWord "t", spacedWord "m"] ++ ⟨.comma, [','], false⟩ :: [spacedWord "u"]⟩,
          ⟨⟨.clause .joins, 1, true⟩, [spacedWord "JOIN"],
            [spacedWord "v", spacedWord "AS", spacedWord "w"] ++ onEqual⟩] := by
      decide +kernel
    have source : ItemsWritten
        ([spacedWord "t", spacedWord "m"] ++ ⟨.comma, [','], false⟩ :: [spacedWord "u"])
        ([spacedWord "public", ⟨.symbol, ['.'], false⟩, { spacedWord "t" with spaced := false },
          spacedWord "m"] ++ ⟨.comma, [','], false⟩ :: [spacedWord "u"]) :=
      .more (.inr (.before false (by decide) (by decide) (.bare rfl))) (by decide) (by decide) rfl
        (.last (.inl rfl) (by decide))
    have target : Join.TargetWritten
        ([spacedWord "v", spacedWord "AS", spacedWord "w"] ++ onEqual)
        ([spacedWord "Public", ⟨.symbol, ['.'], false⟩, spacedWord "v", spacedWord "AS",
          spacedWord "w"] ++ onEqual) := by
      refine .before (.before true (by decide) (by decide) (.as (by decide) rfl)) ?_
        (by decide +kernel) (by decide +kernel)
      rintro t ⟨⟩ c ⟨⟩
      decide
    rw [sections]
    exact .cons (.refl _) (.cons (.body (.source source)) (.cons (.body (.joins target)) .nil))
  rest := [spacedWord "UNION", spacedWord "SELECT", spacedWord "b", spacedWord "FROM",
    spacedWord "x"]
  rest' := [spacedWord "UNION", spacedWord "SELECT", spacedWord "b", spacedWord "FROM",
    spacedWord "public", ⟨.symbol, ['.'], false⟩, { spacedWord "x" with spaced := false }]
  whole := by decide +kernel
  whole' := by decide +kernel
  after := .keep _ (.keep _ (.keep _ (.keep _ (.before false (by decide) (by decide) .nil))))

theorem score_full_of_defaultSchema_join :
    ∃ v, (metric (m := Id)).score ⟨"q", plainTables, schemaTables, none⟩ = pure (.value v) ∧
      v.score = 1.0 ∧ v.isCorrect = true ∧
      ∀ kind, (clauseScore kind (Statement.ofText plainTables) (Statement.ofText schemaTables) :
        Float) = 1.0 ∧ reportedScore? v kind = some 1.0 :=
  score_full_of_defaultSchema (m := Id) ⟨"q", plainTables, schemaTables, none⟩ schemaWrittenThrice

/-- Whether the score changes with the default schema before the name at a place, which stands
between a `JOIN` or a comma and a condition that is set off or the end. -/
def SeesSchema (place : Nat) (reference predicted : String) : Prop :=
  let c : Context Id := ⟨"q", reference.toList, predicted.toList, none⟩
  let ts := tokensOf c.reference
  tokenize c.reference = .ok ts ∧ (ClauseSet.ofTokens ts).hasCore ∧
    (ts[place - 1]?.any fun t => t.isWord "JOIN" || Items.isComma t) ∧
    (∃ t ∈ ts[place]?, t.IsPlainName ∧ Join.EndsTarget [t] (ts.drop (place + 1))) ∧
    Join.IsSetOff (ts.drop (place + 1)) ∧
    tokenize c.predicted = .ok (ts.take place ++
      (spacedWord "public" :: ⟨.symbol, ['.'], false⟩ :: marked false (ts.drop place))) ∧
    (metric.evaluate c).score ≠ 1.0

/-- The white space that a name starts with is trimmed off a target, and is read behind a schema.
A table behind a comma counts as part of the join before it, not as one of the source. -/
theorem score_not_full_of_defaultSchema :
    SeesSchema 5 "SELECT a FROM s JOIN \u00a0t ON 1" "SELECT a FROM s JOIN public.\u00a0t ON 1" ∧
      SeesSchema 8 "SELECT a FROM s CROSS JOIN b, c" "SELECT a FROM s CROSS JOIN b, public.c" := by
  unfold SeesSchema
  decide +kernel

end ComponentMatch

end SqlGrader
