import SqlGrader.Proofs.Sql.ClauseTokens
/-!
# The texts of sections

A clause is the first text of its sections that is not empty, and the joins are the texts of all of
theirs, whatever the tokens of the sections are.
-/

namespace SqlGrader.Token

variable {ts : List Token}

theorem text_subset_render {t : Token} (mem : t ∈ ts) : t.text ⊆ render ts := by
  have spaced (u : Token) : u.text ⊆ u.spacedText := by
    unfold spacedText
    split
    · exact List.subset_cons_self _ _
    · exact List.Subset.refl _
  cases ts with
  | nil => cases mem
  | cons u us =>
      rw [render_cons]
      rcases List.mem_cons.mp mem with rfl | later
      · exact List.subset_append_left _ _
      · intro c here
        exact List.mem_append_right _ (List.mem_flatMap.mpr ⟨t, later, spaced t here⟩)

theorem render_ne_nil_of_mem {t : Token} (mem : t ∈ ts) (text : t.text ≠ []) : render ts ≠ [] := by
  intro nothing
  exact text (List.eq_nil_of_subset_nil (nothing ▸ text_subset_render mem))

end SqlGrader.Token

namespace SqlGrader.ClauseSet

/-- The first text that is not empty. -/
def firstText (texts : List Text) : Text := (texts.find? fun t => !t.isEmpty).getD []

end SqlGrader.ClauseSet

namespace SqlGrader.Section

variable {ts : List Token}

/-- The texts of the sections of a kind. -/
def textsOf (kind : ClauseKind) (ss : List Section) : List Text :=
  (ss.filter fun s => s.boundary.slot == .clause kind).map fun s => Token.render s.content

theorem firstOf_parts_eq (kind : ClauseKind) (ss : List Section) :
    ClauseSet.firstOf kind (ss.filterMap part?) = ClauseSet.firstText (textsOf kind ss) := by
  induction ss with
  | nil => rfl
  | cons s ss ih =>
      unfold textsOf ClauseSet.firstText at ih ⊢
      rw [List.filterMap_cons, List.filter_cons, part?]
      cases slot : s.boundary.slot with
      | unscored =>
          have other : (Slot.unscored == Slot.clause kind) = false := rfl
          simp only [other, ih, Bool.false_eq_true, if_false]
      | clause k =>
          simp only [firstOf_cons, slot_eq, ih]
          by_cases same : k = kind
          · cases empty : (Token.render s.content).isEmpty <;> simp [same, empty]
          · simp [same]

theorem joins_parts_eq (ss : List Section)
    (nonempty : ∀ s ∈ ss, s.boundary.slot = .clause .joins → Token.render s.content ≠ []) :
    ((ss.filterMap part?).filter fun p => p.1 == .joins && !p.2.isEmpty).map (·.2) =
      textsOf .joins ss := by
  induction ss with
  | nil => rfl
  | cons s ss ih =>
      rw [List.forall_mem_cons] at nonempty
      have later := ih nonempty.2
      unfold textsOf at later ⊢
      rw [List.filterMap_cons, List.filter_cons, part?]
      cases slot : s.boundary.slot with
      | unscored =>
          have other : (Slot.unscored == Slot.clause .joins) = false := rfl
          simp only [other, later, Bool.false_eq_true, if_false]
      | clause k =>
          simp only [List.filter_cons, slot_eq]
          by_cases same : k = .joins
          · subst same
            simp [List.isEmpty_eq_false_iff.mpr (nonempty.1 slot), later]
          · simp [same, later]

/-- The text of a join is not empty: its `JOIN` is part of it. -/
theorem render_join_ne_nil {s : Section} (mem : s ∈ ofTokens ts)
    (joins : s.boundary.slot = .clause .joins) : Token.render s.content ≠ [] := by
  obtain ⟨modifiers, j, body, whole, -, join⟩ := splitFrom_joins none 0 ts mem joins
  have text : j.text ≠ [] := by
    intro empty
    have capitals := Token.upper_of_isWord join
    rw [empty] at capitals
    exact absurd capitals (by decide)
  exact Token.render_ne_nil_of_mem (by simp [whole]) text

end SqlGrader.Section

namespace SqlGrader.ClauseSet

variable {ts : List Token}

theorem text_eq_firstText {kind : ClauseKind} (noJoins : kind ≠ .joins) :
    (ofTokens ts).text kind = firstText (Section.textsOf kind (Section.ofTokens ts)) := by
  rw [← Section.firstOf_parts_eq]
  cases kind with
  | joins => exact absurd rfl noJoins
  | _ => rfl

theorem joins_eq_textsOf : (ofTokens ts).joins = Section.textsOf .joins (Section.ofTokens ts) := by
  rw [← Section.joins_parts_eq _ fun s => Section.render_join_ne_nil]
  rfl

/-- Sets of clauses with the same texts are the same. -/
theorem eq_of_texts {c d : ClauseSet} (texts : ∀ kind, kind ≠ .joins → c.text kind = d.text kind)
    (joins : c.joins = d.joins) (reading : c.reading = d.reading) : c = d := by
  have projection := texts .projection (by simp)
  have source := texts .source (by simp)
  have filter := texts .filter (by simp)
  have grouping := texts .grouping (by simp)
  have ordering := texts .ordering (by simp)
  have having_ := texts .having (by simp)
  have limit := texts .limit (by simp)
  cases c
  cases d
  simp_all [text]

end SqlGrader.ClauseSet
