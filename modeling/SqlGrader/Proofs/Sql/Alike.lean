import SqlGrader.Proofs.Sql.Clauses
import SqlGrader.Proofs.Sql.Wrapped
/-!
# Clauses with the same fragments

Texts are *alike* if they are the same or akin, and so are sets of clauses. Alike
clauses are compared by the same fragments. They bring the same names into scope
if their tables are the same and their projections start alike.
-/

namespace SqlGrader

open Token

variable {f : Token → Token} {a b : Text} {as bs : List Text} {c d : ClauseSet} {s : Scope}

/-- The same text, or akin texts. -/
def Alike (f : Token → Token) (a b : Text) : Prop := a = b ∨ Akin f a b

/-- The same text of a join, or texts that are akin as joins. -/
def Join.Alike (f : Token → Token) (a b : Text) : Prop := a = b ∨ Join.TextsAkin f a b

/-- Sets of clauses whose texts are alike, those of joins as joins. -/
structure ClauseSet.Alike (f : Token → Token) (c d : ClauseSet) : Prop where
  text (kind : ClauseKind) (noJoins : kind ≠ .joins) :
    SqlGrader.Alike f (c.text kind) (d.text kind)
  joins : List.Forall₂ (Join.Alike f) c.joins d.joins

theorem ClauseSet.Akin.alike {joined : Text → Text → Prop} (akin : c.Akin f joined d)
    (joins : List.Forall₂ (Join.TextsAkin f) c.joins d.joins) : c.Alike f d :=
  ⟨fun kind noJoins => .inr (akin.text kind noJoins), joins.imp fun _ _ => .inr⟩

/-! ### Texts -/

namespace Alike

theorem isEmpty_eq (alike : Alike f a b) : a.isEmpty = b.isEmpty := by
  rcases alike with rfl | akin
  · rfl
  · exact akin.isEmpty_eq

variable (cosmetic : Cosmetic f)
include cosmetic

theorem items (alike : Alike f a b) (s : Scope) :
    (Items.ofText a).map (s.canonical true) = (Items.ofText b).map (s.canonical true) := by
  rcases alike with rfl | akin
  · rfl
  · exact map_eq_of_forall₂ (akin.items cosmetic) fun _ _ item => item.canonical cosmetic s true

theorem conditions (alike : Alike f a b) (s : Scope) (withAliases : Bool) :
    ((Conditions.ofText a).map fun t =>
        s.canonical withAliases (Statement.withoutOuterParens t)) =
      (Conditions.ofText b).map fun t =>
        s.canonical withAliases (Statement.withoutOuterParens t) := by
  rcases alike with rfl | akin
  · rfl
  · exact map_eq_of_forall₂ (akin.conditions cosmetic) fun _ _ condition =>
      (condition.withoutOuterParens cosmetic).canonical cosmetic s withAliases

theorem projection (alike : Alike f a b) (start : ProjectionItem.StartAlike a b) (s : Scope) :
    ProjectionItem.ofProjection s a = ProjectionItem.ofProjection s b := by
  rcases alike with rfl | akin
  · rfl
  · exact akin.projection cosmetic start s

end Alike

/-! ### Joins -/

/-- Alike joins of the same tables have the same canonical texts. -/
theorem Statement.map_canonicalJoin (cosmetic : Cosmetic f)
    (pairs : List.Forall₂ (Join.Alike f) as bs)
    (tables : (as.filterMap fun j => (Join.ofText? j).map Join.targetText).map TableRef.ofText? =
      (bs.filterMap fun j => (Join.ofText? j).map Join.targetText).map TableRef.ofText?) :
    as.map (canonicalJoin ⟨c, s⟩) = bs.map (canonicalJoin ⟨d, s⟩) := by
  induction pairs with
  | nil => rfl
  | @cons a b as bs here _ ih =>
      rw [List.filterMap_cons, List.filterMap_cons] at tables
      rw [List.map_cons, List.map_cons]
      rcases here with rfl | ⟨x, y, left, right, akin⟩
      · have rest : (as.filterMap fun j => (Join.ofText? j).map Join.targetText).map
              TableRef.ofText? =
            (bs.filterMap fun j => (Join.ofText? j).map Join.targetText).map TableRef.ofText? := by
          cases found : (Join.ofText? a).map Join.targetText with
          | none => simpa [found] using tables
          | some t =>
              simp only [found, List.map_cons, List.cons.injEq] at tables
              exact tables.2
        rw [ih rest]
        rfl
      · simp only [left, right, Option.map_some, List.map_cons, List.cons.injEq] at tables
        rw [ih tables.2, canonicalJoin, canonicalJoin, left, right]
        simp only [Join.canonical_congr cosmetic akin s tables.1]

/-! ### Sets of clauses -/

namespace Scope

/-- The texts of the tables that are joined. -/
def joinedTexts (clauses : ClauseSet) : List Text :=
  clauses.joins.filterMap fun j => (Join.ofText? j).map Join.targetText

theorem tablesOf_eq (c : ClauseSet) :
    tablesOf c = (Items.ofText c.source ++ joinedTexts c).filterMap TableRef.ofText? := rfl

/-- Sets of clauses that refer to the same tables, text by text. -/
structure SameTables (c d : ClauseSet) : Prop where
  sources : (Items.ofText c.source).map TableRef.ofText? =
    (Items.ofText d.source).map TableRef.ofText?
  joined : (joinedTexts c).map TableRef.ofText? = (joinedTexts d).map TableRef.ofText?

theorem SameTables.tablesOf (same : SameTables c d) : Scope.tablesOf c = Scope.tablesOf d := by
  have known : ∀ xs : List Text,
      xs.filterMap TableRef.ofText? = (xs.map TableRef.ofText?).filterMap id := by
    intro xs
    rw [List.filterMap_map]
    rfl
  rw [tablesOf_eq, tablesOf_eq, known, known, List.map_append, List.map_append, same.sources,
    same.joined]

end Scope

namespace ClauseSet.Alike

theorem isPresent (alike : c.Alike f d) (kind : ClauseKind) :
    c.isPresent kind = d.isPresent kind :=
  isPresent_congr (fun kind noJoins => (alike.text kind noJoins).isEmpty_eq) alike.joins.length_eq
    kind

theorem hasCore (alike : c.Alike f d) : c.hasCore = d.hasCore := hasCore_congr alike.isPresent

/-- Alike clauses of the same tables bring the same names into scope. -/
theorem scope (alike : c.Alike f d) (cosmetic : Cosmetic f) (tables : Scope.SameTables c d)
    (start : ProjectionItem.StartAlike c.projection d.projection) :
    Scope.ofClauses c = Scope.ofClauses d := by
  have joins := alike.isPresent .joins
  simp only [ClauseSet.isPresent, Bool.not_inj_iff] at joins
  have projection : SqlGrader.Alike f c.projection d.projection :=
    alike.text .projection (by simp)
  simp only [Scope.ofClauses, tables.tablesOf, joins, projection.projection cosmetic start]

end ClauseSet.Alike

end SqlGrader
