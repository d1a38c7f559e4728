import SqlGrader.Proofs.Sql.Clauses
import SqlGrader.Proofs.Sql.SchemaJoins
import SqlGrader.Proofs.Sql.SchemaSections
/-!
# Clauses with the default schema

Tables are named in the source and in the joins. With the default schema before some of their names
the source lists the same tables and each join is read to the same parts. The texts of the other
clauses stay as they are.
-/

namespace SqlGrader

open Token

/-- The body of a section in the slot, with the default schema before some of the names of its
items or before the name of the table that is joined. -/
inductive BodyWritten : Slot → List Token → List Token → Prop
  | same (slot : Slot) (body : List Token) : BodyWritten slot body body
  | source {body body' : List Token} (items : ItemsWritten body body') :
      BodyWritten (.clause .source) body body'
  | joins {body body' : List Token} (target : Join.TargetWritten body body') :
      BodyWritten (.clause .joins) body body'

/-- The second section is the first one with the default schema in its body. -/
inductive Section.SchemaWritten : Section → Section → Prop
  | body {b : Boundary} {opening body body' : List Token}
      (written : BodyWritten b.slot body body') :
      SchemaWritten ⟨b, opening, body⟩ ⟨b, opening, body'⟩

/-- Clause texts of a kind that are read to the same. -/
def SameReading : ClauseKind → Text → Text → Prop
  | .source, a, b =>
    (Items.ofText b).filterMap TableRef.ofText? = (Items.ofText a).filterMap TableRef.ofText?
  | .joins, a, b =>
    b = a ∨ ∃ x y, Join.ofText? a = some x ∧ Join.ofText? b = some y ∧ x.ReadsSame y
  | _, a, b => b = a

theorem SameReading.refl (kind : ClauseKind) (a : Text) : SameReading kind a a := by
  cases kind with
  | joins => exact .inl rfl
  | _ => rfl

variable {ts us body body' : List Token} {slot : Slot} {s s' : Section}

/-! ### The schema among the tokens -/

namespace Prefixed

theorem isEmpty (pair : Prefixed ts us) : us.isEmpty = ts.isEmpty := by
  cases pair <;> rfl

theorem of_schemaWritten (written : SchemaWritten ts us) : Prefixed ts us := by
  obtain ⟨gap, isSchema, plain, -⟩ := written
  exact .before gap isSchema plain (.refl _)

theorem of_mayHaveSchema (same : MayHaveSchema ts us) : Prefixed ts us := by
  rcases same with rfl | written
  · exact .refl _
  · exact .of_schemaWritten written

theorem of_itemsWritten (written : ItemsWritten ts us) : Prefixed ts us := by
  induction written with
  | last same => exact .of_mayHaveSchema same
  | more same _ _ _ _ ih => exact (of_mayHaveSchema same).append (.keep _ ih)

theorem of_bodyWritten (written : BodyWritten slot body body') : Prefixed body body' := by
  cases written with
  | same => exact .refl _
  | source items => exact .of_itemsWritten items
  | joins target =>
      obtain ⟨written, -, -, -⟩ := target
      exact (of_schemaWritten written).append (.refl _)

end Prefixed

namespace Section

theorem SchemaWritten.refl (s : Section) : SchemaWritten s s := .body (.same _ _)

theorem SchemaWritten.prefixed (pair : SchemaWritten s s') : Prefixed s s' := by
  obtain ⟨written⟩ := pair
  exact .body (.of_bodyWritten written)

/-- The text of a section is read to the same with the schema. -/
theorem SchemaWritten.part? {outer : Option Slot} (pair : SchemaWritten s s')
    (words : Boundary.Opening outer s.boundary s.opening) (legible : Legible s.content)
    (legible' : Legible s'.content) :
    Option.Rel (ClauseSet.PartsRelated SameReading) s.part? s'.part? := by
  obtain @⟨⟨slot, width, kept⟩, opening, body, body', written⟩ := pair
  cases slot with
  | unscored => exact .none
  | clause kind =>
      have whole := (SqlGrader.Prefixed.refl opening).append (.of_bodyWritten written)
      have sized : (render (content ⟨⟨.clause kind, width, kept⟩, opening, body⟩)).isEmpty =
          (render (content ⟨⟨.clause kind, width, kept⟩, opening, body'⟩)).isEmpty := by
        rw [isEmpty_render legible, isEmpty_render legible']
        cases kept with
        | false => exact (SqlGrader.Prefixed.of_bodyWritten written).isEmpty.symm
        | true => exact whole.isEmpty.symm
      refine .some ⟨rfl, sized, ?_⟩
      cases written with
      | same => exact .refl kind _
      | source items =>
          obtain rfl : kept = false := words.kept_eq_false rfl (by simp) (by simp)
          exact items.ofText legible legible'
      | joins target =>
          obtain ⟨keeps, modifiers, j, rfl, all, join⟩ := words.joins rfl
          obtain rfl : kept = true := keeps
          exact .inr (target.readsSame ⟨modifiers, j, rfl, all, join⟩ legible legible')

end Section

namespace ClauseSet

/-- Part by part the clauses are read to the same with the schema. -/
theorem parts_schemaWritten (left : Legible ts) (right : Legible us)
    (pairs : List.Forall₂ Section.SchemaWritten (Section.ofTokens ts) (Section.ofTokens us)) :
    List.Forall₂ (PartsRelated SameReading) ((Section.ofTokens ts).filterMap Section.part?)
      ((Section.ofTokens us).filterMap Section.part?) := by
  have inside : List.Forall₂ (fun s s' => (s ∈ Section.ofTokens ts ∧ s' ∈ Section.ofTokens us) ∧
      Section.SchemaWritten s s') (Section.ofTokens ts) (Section.ofTokens us) :=
    List.forall₂_iff_zip.mpr ⟨pairs.length_eq, fun mem =>
      ⟨List.of_mem_zip mem, List.forall₂_zip pairs mem⟩⟩
  refine List.rel_filterMap ?_ inside
  rintro s s' ⟨⟨mem, mem'⟩, pair⟩
  obtain ⟨outer, words⟩ := Section.splitFrom_opened none 0 ts s mem
  exact pair.part? words (left.of_isInfix (Section.content_within mem))
    (right.of_isInfix (Section.content_within mem'))

end ClauseSet

end SqlGrader
