import SqlGrader.Proofs.Sql.Alike
/-!
# The names of statements that differ in the case of keywords

Names of tables are compared as they are written, also where they are spelled
like a keyword. Two akin sets of clauses whose tables have the same names refer to
the same tables.
-/

namespace SqlGrader

open Token

variable {a b : Text} {as bs : List Text} {c d : ClauseSet} {f : Token → Token}
  {joined : Text → Text → Prop}

/-- Akin texts are both table references or neither is one; the aliases agree. -/
theorem Akin.tableRef (akin : Akin f a b) (cosmetic : Cosmetic f) :
    Option.Rel (fun x y => x.aliasName = y.aliasName) (TableRef.ofText? a)
      (TableRef.ofText? b) := by
  obtain ⟨ts, us, twin, readLeft, readRight, -⟩ := akin.tokens cosmetic
  have ends := cosmetic.splitEnd ts
  rw [twin.same, cosmetic.splitEnd us] at ends
  have aliases := congrArg Prod.snd ends
  rw [TableRef.ofText?, TableRef.ofText?, readLeft, readRight]
  cases ts with
  | nil =>
      obtain rfl := twin.nil_iff.mp rfl
      exact .none
  | cons t ts =>
      obtain ⟨u, us, rfl, -⟩ := twin.uncons
      exact .some aliases.symm

/-- Akin texts are the same table references if the names in all of them agree. -/
theorem map_ofText?_of_names (cosmetic : Cosmetic f) (pairs : List.Forall₂ (Akin f) as bs)
    (names : (as.filterMap TableRef.ofText?).map (·.name) =
      (bs.filterMap TableRef.ofText?).map (·.name)) :
    as.map TableRef.ofText? = bs.map TableRef.ofText? := by
  induction pairs with
  | nil => rfl
  | @cons a b as bs here _ ih =>
      rw [List.filterMap_cons, List.filterMap_cons] at names
      rw [List.map_cons, List.map_cons]
      have refs := here.tableRef cosmetic
      generalize TableRef.ofText? a = x at refs names ⊢
      generalize TableRef.ofText? b = y at refs names ⊢
      cases refs with
      | none => rw [ih names]
      | @some x y aliases =>
          rw [List.map_cons, List.map_cons, List.cons.injEq] at names
          obtain ⟨name, aliasName⟩ := x
          obtain ⟨name', aliasName'⟩ := y
          obtain rfl : name = name' := names.1
          obtain rfl : aliasName = aliasName' := aliases
          rw [ih names.2]

namespace Scope

theorem joinedTexts_akin (joins : List.Forall₂ (Join.TextsAkin f) c.joins d.joins) :
    List.Forall₂ (SqlGrader.Akin f) (joinedTexts c) (joinedTexts d) := by
  refine List.rel_filterMap ?_ joins
  rintro a b ⟨x, y, left, right, joins⟩
  simp only [left, right]
  exact .some joins.target

/-- The names of all tables that two sets of clauses refer to. -/
def SameNames (c d : ClauseSet) : Prop := (tablesOf c).map (·.name) = (tablesOf d).map (·.name)

/-- Akin clauses with the same names have the same tables, text by text. -/
theorem SameNames.sameTables (names : SameNames c d) (cosmetic : Cosmetic f)
    (akin : c.Akin f joined d) (joins : List.Forall₂ (Join.TextsAkin f) c.joins d.joins) :
    SameTables c d := by
  have source : SqlGrader.Akin f c.source d.source := akin.text .source (by simp)
  have sources := source.items cosmetic
  have all := map_ofText?_of_names cosmetic (List.rel_append sources (joinedTexts_akin joins)) names
  rw [List.map_append, List.map_append] at all
  obtain ⟨left, right⟩ := List.append_inj all (by simpa using sources.length_eq)
  exact ⟨left, right⟩

end Scope

end SqlGrader
