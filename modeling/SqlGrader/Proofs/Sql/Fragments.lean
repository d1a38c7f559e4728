import Mathlib.Data.List.Forall2
import SqlGrader.Proofs.Sql.Twin
/-!
# Fragments of statements that differ in what readers do not see

Two texts are *akin* if they are the texts of twins. Items and conditions of
akin texts are akin one by one, and what a statement is compared by is the same
for both: canonical texts, aliases, numbers and projection items.
-/

namespace SqlGrader.Token

variable {ts us piece : List Token} {f : Token → Token}

/-- Each piece is a stretch of the tokens that ends with them or in front of a separator; the first
one stands at their start. -/
theorem piecesFrom_cut {σ : Type} (test : σ → Token → σ × Bool) (s : σ) (depth : Nat)
    (ts : List Token) :
    ∃ first others, piecesFrom test s depth ts = first :: others ∧
      (∃ after, ts = first ++ after ∧ ∀ u ∈ after.head?, ∃ s, (test s u).2) ∧
      ∀ piece ∈ others, ∃ before after, ts = before ++ piece ++ after ∧
        ∀ u ∈ after.head?, ∃ s, (test s u).2 := by
  induction ts generalizing s depth with
  | nil => exact ⟨[], [], rfl, ⟨[], rfl, by simp⟩, by simp⟩
  | cons t ts ih =>
      have later : ∀ {piece}, (∃ before after, ts = before ++ piece ++ after ∧
            ∀ u ∈ after.head?, ∃ s, (test s u).2) →
          ∃ before after, t :: ts = before ++ piece ++ after ∧
            ∀ u ∈ after.head?, ∃ s, (test s u).2 := by
        rintro piece ⟨before, after, rfl, ends⟩
        exact ⟨t :: before, after, rfl, ends⟩
      have kept : ∀ s depth, ∃ first others,
          consHead t (piecesFrom test s depth ts) = first :: others ∧
          (∃ after, t :: ts = first ++ after ∧ ∀ u ∈ after.head?, ∃ s, (test s u).2) ∧
          ∀ piece ∈ others, ∃ before after, t :: ts = before ++ piece ++ after ∧
            ∀ u ∈ after.head?, ∃ s, (test s u).2 := by
        intro s depth
        obtain ⟨first, others, same, ⟨after, start, ends⟩, inside⟩ := ih s depth
        refine ⟨t :: first, others, by rw [same]; rfl, ⟨after, ?_, ends⟩, ?_⟩
        · rw [start]
          rfl
        · exact fun piece mem => later (inside piece mem)
      simp only [piecesFrom]
      split
      · exact kept _ _
      · split
        next separates =>
          obtain ⟨first, others, same, ⟨after, start, ends⟩, inside⟩ := ih (test s t).1 depth
          refine ⟨[], first :: others, by rw [same], ⟨t :: ts, rfl, ?_⟩, ?_⟩
          · intro u head
            obtain rfl := Option.some.inj head
            exact ⟨s, separates⟩
          · intro piece mem
            rcases List.mem_cons.mp mem with rfl | mem
            · exact later ⟨[], after, start, ends⟩
            · exact later (inside piece mem)
        next => exact kept _ _

theorem splitTopLevelWith_cut {σ : Type} {test : σ → Token → σ × Bool} {s : σ}
    (mem : piece ∈ splitTopLevelWith test s ts) :
    ∃ before after, ts = before ++ piece ++ after ∧ ∀ u ∈ after.head?, ∃ s, (test s u).2 := by
  obtain ⟨first, others, same, ⟨after, start, ends⟩, inside⟩ := piecesFrom_cut test s 0 ts
  rw [splitTopLevelWith, same] at mem
  rcases List.mem_cons.mp (List.mem_of_mem_filter mem) with rfl | mem
  · exact ⟨[], after, start, ends⟩
  · exact inside piece mem

theorem splitTopLevelWith_within {σ : Type} {test : σ → Token → σ × Bool} {s : σ}
    (mem : piece ∈ splitTopLevelWith test s ts) :
    piece <:+: ts := by
  obtain ⟨before, after, same, -⟩ := splitTopLevelWith_cut mem
  exact ⟨before, after, same.symm⟩

/-- Lists with the same image, paired. -/
theorem forall₂_of_map_eq {α β : Type} {f : α → β} {xs ys : List α} {P Q : α → Prop}
    (same : xs.map f = ys.map f) (left : ∀ x ∈ xs, P x) (right : ∀ y ∈ ys, Q y) :
    List.Forall₂ (fun x y => P x ∧ Q y ∧ f x = f y) xs ys := by
  induction xs generalizing ys with
  | nil =>
      obtain rfl : ys = [] := by simpa using same.symm
      exact .nil
  | cons x xs ih =>
      obtain ⟨y, ys', rfl, here, rest⟩ := List.map_eq_cons_iff.mp same.symm
      refine .cons ⟨left x (by simp), right y (by simp), here.symm⟩ (ih rest.symm ?_ ?_)
      · exact fun x mem => left x (by simp [mem])
      · exact fun y mem => right y (by simp [mem])

theorem map_eq_of_forall₂ {α β γ : Type} {r : α → β → Prop} {f : α → γ} {g : β → γ} {xs : List α}
    {ys : List β} (pairs : List.Forall₂ r xs ys) (same : ∀ x y, r x y → f x = g y) :
    xs.map f = ys.map g := by
  induction pairs with
  | nil => rfl
  | cons here _ ih => rw [List.map_cons, List.map_cons, same _ _ here, ih]

/-- The pieces of twins are twins. -/
theorem Twin.pieces {σ : Type} {test : σ → Token → σ × Bool} (cosmetic : Cosmetic f)
    (twin : Twin f ts us) (blind : ∀ s t, test s (f t) = test s t) (s : σ) :
    List.Forall₂ (Twin f) (splitTopLevelWith test s ts) (splitTopLevelWith test s us) := by
  have same := cosmetic.neutral.splitTopLevelWith test blind s ts
  rw [twin.same, cosmetic.neutral.splitTopLevelWith test blind s us] at same
  refine (forall₂_of_map_eq same.symm (fun _ => splitTopLevelWith_within)
    (fun _ => splitTopLevelWith_within)).imp ?_
  rintro a b ⟨left, right, here⟩
  exact twin.of_within left right here

end SqlGrader.Token

namespace SqlGrader

open Token

variable {a b : Text} {s : Scope} {ts us : List Token} {f : Token → Token}

/-- Two texts of tokens that a change makes the same. -/
def Akin (f : Token → Token) (a b : Text) : Prop :=
  ∃ ts us, Twin f ts us ∧ a = render ts ∧ b = render us

namespace Akin

theorem of_twin (twin : Twin f ts us) : Akin f (render ts) (render us) := ⟨ts, us, twin, rfl, rfl⟩

theorem nil : Akin f [] [] := ⟨[], [], ⟨trivial, trivial, by simp, by simp, rfl⟩, rfl, rfl⟩

theorem symm (akin : Akin f a b) : Akin f b a := by
  obtain ⟨ts, us, twin, rfl, rfl⟩ := akin
  exact ⟨us, ts, twin.symm, rfl, rfl⟩

theorem nil_iff (akin : Akin f a b) : a = [] ↔ b = [] := by
  obtain ⟨ts, us, twin, rfl, rfl⟩ := akin
  rw [render_eq_nil twin.left, render_eq_nil twin.right, twin.nil_iff]

theorem isEmpty_eq (akin : Akin f a b) : a.isEmpty = b.isEmpty := by
  rw [Bool.eq_iff_iff, List.isEmpty_iff, List.isEmpty_iff, akin.nil_iff]

theorem trim_left (akin : Akin f a b) : Text.trim a = a := by
  obtain ⟨ts, us, twin, rfl, rfl⟩ := akin
  exact twin.trim_render

theorem trim_right (akin : Akin f a b) : Text.trim b = b := akin.symm.trim_left

variable (cosmetic : Cosmetic f)
include cosmetic

/-- Akin texts have twins as their tokens. -/
theorem tokens (akin : Akin f a b) :
    ∃ ts us, Twin f ts us ∧ tokenize a = .ok ts ∧ tokenize b = .ok us ∧
      a = render ts ∧ b = render us := by
  obtain ⟨ts, us, twin, rfl, rfl⟩ := akin
  exact ⟨atStart ts, atStart us, twin.atStart cosmetic, twin.tokenize_render,
    twin.symm.tokenize_render, (render_atStart ts).symm, (render_atStart us).symm⟩

/-! ### Canonical texts -/

/-- The canonical text of a fragment does not depend on what the change does. -/
theorem canonical (akin : Akin f a b) (s : Scope) (withAliases : Bool) :
    s.canonical withAliases a = s.canonical withAliases b := by
  obtain ⟨ts, us, twin, readLeft, readRight, -⟩ := akin.tokens cosmetic
  rw [Scope.canonical, Scope.canonical, readLeft, readRight]
  simp only
  rw [← cosmetic.canonicalTokens s withAliases ts, twin.same, cosmetic.canonicalTokens]

/-! ### Items and conditions -/

theorem items (akin : Akin f a b) :
    List.Forall₂ (Akin f) (Items.ofText a) (Items.ofText b) := by
  obtain ⟨ts, us, twin, readLeft, readRight, -⟩ := akin.tokens cosmetic
  rw [Items.ofText, Items.ofText, readLeft, readRight]
  simp only [List.forall₂_map_left_iff, List.forall₂_map_right_iff]
  refine (twin.pieces cosmetic (fun _ t => ?_) ()).imp fun _ _ => of_twin
  rw [cosmetic.neutral.isComma]

theorem conditions (akin : Akin f a b) :
    List.Forall₂ (Akin f) (Conditions.ofText a) (Conditions.ofText b) := by
  obtain ⟨ts, us, twin, readLeft, readRight, -⟩ := akin.tokens cosmetic
  rw [Conditions.ofText, Conditions.ofText, readLeft, readRight]
  simp only [List.forall₂_map_left_iff, List.forall₂_map_right_iff]
  exact (twin.pieces cosmetic cosmetic.neutral.joinsConditions false).imp fun _ _ => of_twin

/-! ### Projection items -/

theorem projectionItem (akin : Akin f a b) (s : Scope) :
    ProjectionItem.ofText s a = ProjectionItem.ofText s b := by
  obtain ⟨ts, us, twin, readLeft, readRight, -⟩ := akin.tokens cosmetic
  have ends := cosmetic.splitEnd ts
  rw [twin.same, cosmetic.splitEnd us] at ends
  simp only [Prod.mk.injEq] at ends
  obtain ⟨body, aliases⟩ := ends
  rw [ProjectionItem.ofText, ProjectionItem.ofText, readLeft, readRight]
  simp only [aliases]
  rw [← cosmetic.canonicalTokens s false (Alias.splitEnd ts).1, ← body, cosmetic.canonicalTokens]

end Akin

end SqlGrader
