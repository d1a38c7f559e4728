import SqlGrader.Proofs.Sql.Alike
/-!
# Clauses of statements that differ in the gaps between tokens

What a table is called is told by the kinds and the texts of tokens, so clauses
that differ in gaps only refer to the same tables.
-/

namespace SqlGrader

open Token

variable {a b : Text} {as bs : List Text} {c d : ClauseSet} {ts us : List Token}

theorem TableRef.nameOf_map_unspaced (body : List Token) :
    nameOf (body.map unspaced) = nameOf body := by
  have head : (body.map unspaced).head?.any (·.kind == .openParen) =
      body.head?.any (·.kind == .openParen) := by
    cases body <;> rfl
  have texts : (body.map unspaced).flatMap (·.text) = body.flatMap (·.text) := by
    rw [List.flatMap_map]
    rfl
  rw [nameOf, nameOf, head, texts, cosmetic_unspaced.canonicalTokens]

/-- Texts that differ in gaps are the same table reference. -/
theorem Akin.tableRef_eq (akin : Akin unspaced a b) : TableRef.ofText? a = TableRef.ofText? b := by
  obtain ⟨ts, us, twin, readLeft, readRight, -⟩ := akin.tokens cosmetic_unspaced
  have ends := cosmetic_unspaced.splitEnd ts
  rw [twin.same, cosmetic_unspaced.splitEnd us] at ends
  simp only [Prod.mk.injEq] at ends
  obtain ⟨body, aliases⟩ := ends
  have name : TableRef.nameOf (Alias.splitEnd ts).1 = TableRef.nameOf (Alias.splitEnd us).1 := by
    rw [← TableRef.nameOf_map_unspaced, ← body, TableRef.nameOf_map_unspaced]
  rw [TableRef.ofText?, TableRef.ofText?, readLeft, readRight]
  cases ts with
  | nil =>
      obtain rfl := twin.nil_iff.mp rfl
      rfl
  | cons t ts =>
      obtain ⟨u, us, rfl, -⟩ := twin.uncons
      simp only [name, aliases]

/-- Joins that differ in gaps join the same tables. -/
theorem map_ofText?_of_joins (pairs : List.Forall₂ (Join.Alike unspaced) as bs) :
    (as.filterMap fun j => (Join.ofText? j).map Join.targetText).map TableRef.ofText? =
      (bs.filterMap fun j => (Join.ofText? j).map Join.targetText).map TableRef.ofText? := by
  induction pairs with
  | nil => rfl
  | @cons a b as bs here _ ih =>
      rw [List.filterMap_cons, List.filterMap_cons]
      rcases here with rfl | ⟨x, y, left, right, akin⟩
      · cases (Join.ofText? a).map Join.targetText with
        | none => exact ih
        | some t => simp only [List.map_cons, ih]
      · simp only [left, right, Option.map_some, List.map_cons, ih, akin.target.tableRef_eq]

/-- Clauses that differ in gaps refer to the same tables. -/
theorem ClauseSet.Alike.sameTables (alike : c.Alike unspaced d) : Scope.SameTables c d := by
  have source : SqlGrader.Alike unspaced c.source d.source := alike.text .source (by simp)
  refine ⟨?_, map_ofText?_of_joins alike.joins⟩
  rcases source with same | akin
  · rw [same]
  · exact map_eq_of_forall₂ (akin.items cosmetic_unspaced) fun _ _ item => item.tableRef_eq

end SqlGrader
