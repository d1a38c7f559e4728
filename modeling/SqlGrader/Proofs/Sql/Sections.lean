import SqlGrader.Proofs.Sql.Splitting
/-!
# The sections of a statement

A section is a stretch of the tokens of its statement. Where a section starts is
told by words, whatever their case, so a neutral change of the tokens leaves the
sections where they are. Semicolons at the end belong to no section as long as no
parenthesis is open there.
-/

namespace SqlGrader.Section

open Token

variable {ts us : List Token} {s : Section}

/-- The section with its tokens changed. -/
def map (f : Token → Token) (s : Section) : Section :=
  ⟨s.boundary, s.opening.map f, s.body.map f⟩

theorem content_map (f : Token → Token) (s : Section) :
    (s.map f).content = s.content.map f := by
  cases kept : s.boundary.kept <;> simp [content, map, kept]

/-- A neutral change leaves the sections where they are. -/
theorem splitFrom_map {f : Token → Token} (neutral : Neutral f) (current : Option Slot)
    (depth : Nat) (ts : List Token) :
    splitFrom current depth (ts.map f) =
      ((splitFrom current depth ts).1.map f, (splitFrom current depth ts).2.map (map f)) := by
  fun_induction splitFrom current depth ts with
  | case1 => simp [splitFrom]
  | case2 current depth t ts inside body later rest ih =>
      rw [List.map_cons, splitFrom, neutral.isParen, if_pos inside, neutral.depthAfter, ih]
      simp [rest]
  | case3 current depth t ts outside ends =>
      rw [List.map_cons, splitFrom, neutral.isParen, if_neg outside, neutral.endsQuery,
        if_pos ends]
      rfl
  | case4 current depth t ts outside goesOn b opens body later rest ih =>
      rw [List.map_cons, splitFrom, neutral.isParen, if_neg outside, neutral.endsQuery,
        if_neg goesOn, neutral.boundaryAt?, opens]
      simp only [← List.map_drop, ih, rest, ← List.map_cons, ← List.map_take]
      rfl
  | case5 current depth t ts outside goesOn opens body later rest ih =>
      rw [List.map_cons, splitFrom, neutral.isParen, if_neg outside, neutral.endsQuery,
        if_neg goesOn, neutral.boundaryAt?, opens]
      simp only [ih, rest]
      rfl

/-! ### Sections are stretches of the tokens -/

/-- What belongs to the open section and the sections after it stand one after the other. -/
theorem splitFrom_covers (current : Option Slot) (depth : Nat) (ts : List Token) :
    (splitFrom current depth ts).1 ++ (splitFrom current depth ts).2.flatMap tokens <+: ts := by
  fun_induction splitFrom current depth ts with
  | case1 => simp
  | case2 current depth t ts inside body later rest ih =>
      rw [rest] at ih
      exact List.cons_prefix_cons.mpr ⟨rfl, ih⟩
  | case3 => simp
  | case4 current depth t ts outside goesOn b opens body later rest ih =>
      rw [rest] at ih
      obtain ⟨more, whole⟩ := ih
      refine ⟨more, ?_⟩
      rw [List.nil_append, List.flatMap_cons, tokens, List.append_assoc, List.append_assoc,
        ← List.append_assoc body, whole, Boundary.at?_take_append_drop opens]
  | case5 current depth t ts outside goesOn opens body later rest ih =>
      rw [rest] at ih
      exact List.cons_prefix_cons.mpr ⟨rfl, ih⟩

/-- Every section is opened by the words of its boundary. -/
theorem splitFrom_opened (current : Option Slot) (depth : Nat) (ts : List Token) :
    ∀ s ∈ (splitFrom current depth ts).2, ∃ outer, Boundary.Opening outer s.boundary s.opening := by
  fun_induction splitFrom current depth ts with
  | case1 => simp
  | case2 current depth t ts inside body later rest ih => rwa [rest] at ih
  | case3 => simp
  | case4 current depth t ts outside goesOn b opens body later rest ih =>
      rw [rest] at ih
      exact List.forall_mem_cons.mpr ⟨⟨current, (Boundary.at?_take opens).1⟩, ih⟩
  | case5 current depth t ts outside goesOn opens body later rest ih => rwa [rest] at ih

theorem splitFrom_within (current : Option Slot) (depth : Nat) (ts : List Token) :
    (splitFrom current depth ts).1 <+: ts ∧
      ∀ s ∈ (splitFrom current depth ts).2, s.tokens <:+: ts := by
  have whole := splitFrom_covers current depth ts
  refine ⟨(List.prefix_append _ _).trans whole, fun s mem => ?_⟩
  have inside : s.tokens <:+: (splitFrom current depth ts).2.flatMap tokens :=
    List.infix_of_mem_flatten (List.mem_map_of_mem mem)
  exact (inside.trans (List.suffix_append _ _).isInfix).trans whole.isInfix

/-- The text of a section is a stretch of the statement. -/
theorem content_within (mem : s ∈ ofTokens ts) : s.content <:+: ts := by
  have within := (splitFrom_within none 0 ts).2 s mem
  unfold content
  split
  · exact within
  · exact (List.suffix_append _ _).isInfix.trans within

/-- A section of a join starts with the keywords of the join. -/
theorem splitFrom_joins (current : Option Slot) (depth : Nat) (ts : List Token)
    (mem : s ∈ (splitFrom current depth ts).2) (joins : s.boundary.slot = .clause .joins) :
    ∃ modifiers j body, s.content = modifiers ++ j :: body ∧
      (∀ m ∈ modifiers, Boundary.isJoinModifier m) ∧ j.isWord "JOIN" := by
  obtain ⟨outer, words⟩ := splitFrom_opened current depth ts s mem
  obtain ⟨kept, modifiers, j, keywords, all, join⟩ := words.joins joins
  refine ⟨modifiers, j, s.body, ?_, all, join⟩
  simp [content, kept, keywords]

/-! ### Semicolons at the end -/

theorem kind_of_isTerminator {t : Token} (ends : NormalForm.isTerminator t) :
    t.kind = .symbol := by
  simp only [NormalForm.isTerminator, Bool.and_eq_true, beq_iff_eq] at ends
  exact ends.1

theorem startsApart_of_terminators (ends : ∀ u ∈ us, NormalForm.isTerminator u) :
    StartsApart us := by
  intro u first word
  rw [kind_of_isTerminator (ends u (List.mem_of_mem_head? first))] at word
  cases word

theorem splitFrom_of_terminators (current : Option Slot) (depth : Nat)
    (ends : ∀ u ∈ us, NormalForm.isTerminator u) :
    (splitFrom current depth us).2 = [] ∧
      (current.isSome → depth = 0 → (splitFrom current depth us).1 = []) := by
  induction us with
  | nil => simp [splitFrom]
  | cons u us ih =>
      have here := kind_of_isTerminator (ends u (by simp))
      obtain ⟨noSection, empty⟩ := ih fun v mem => ends v (by simp [mem])
      have noParen : u.isParen = false := by simp [isParen, here]
      have kept : u.depthAfter depth = depth := by simp [depthAfter, here]
      rw [splitFrom, noParen, kept, at?_of_kind_ne (by simp [here])]
      by_cases inside : depth = 0
      · have query : endsQuery u := by simp [endsQuery, ends u (by simp)]
        cases current <;> simp_all
      · simp [inside, noSection]

/-- Semicolons after the last parenthesis is closed belong to no section. -/
theorem splitFrom_append (ends : ∀ u ∈ us, NormalForm.isTerminator u) (current : Option Slot)
    (depth : Nat) (ts : List Token) (closed : depthAt depth ts = 0) :
    (splitFrom current depth (ts ++ us)).2 = (splitFrom current depth ts).2 := by
  have apart := startsApart_of_terminators ends
  cases continues current depth ts with
  | ended same => rw [same us apart]
  | body same =>
      have alone := same [] startsApart_nil
      rw [List.append_nil] at alone
      rw [same us apart, alone, (splitFrom_of_terminators current _ ends).1, splitFrom]
  | last lead done s whole same =>
      have alone := same [] startsApart_nil
      rw [List.append_nil] at alone
      obtain ⟨noSection, empty⟩ := splitFrom_of_terminators (some s.boundary.slot) 0 ends
      rw [same us apart, alone, closed, noSection, empty rfl rfl, splitFrom]

/-- The sections of a statement do not see the semicolons at its end. -/
theorem ofTokens_dropTerminators (ts : List Token)
    (closed : depthAt 0 (NormalForm.dropTerminators ts) = 0) :
    ofTokens (NormalForm.dropTerminators ts) = ofTokens ts := by
  have whole : NormalForm.dropTerminators ts ++ ts.rtakeWhile NormalForm.isTerminator = ts :=
    List.rdropWhile_append_rtakeWhile
  have ends : ∀ u ∈ ts.rtakeWhile NormalForm.isTerminator, NormalForm.isTerminator u :=
    fun u mem => List.mem_rtakeWhile_imp mem
  have sections := splitFrom_append ends none 0 _ closed
  rw [whole] at sections
  exact sections.symm

/-! ### The mark of the first token -/

theorem part?_unspaced (b : Boundary) (t : Token) (opening body : List Token) :
    part? ⟨b, { t with spaced := false } :: opening, body⟩ = part? ⟨b, t :: opening, body⟩ := by
  cases kept : b.kept <;> cases slot : b.slot <;> simp [part?, content, kept, slot, render]

theorem parts_atStart (ts : List Token) :
    (ofTokens (atStart ts)).filterMap part? = (ofTokens ts).filterMap part? := by
  cases ts with
  | nil => rfl
  | cons t ts =>
      have paren : ({ t with spaced := false } : Token).isParen = t.isParen := rfl
      have depth : ({ t with spaced := false } : Token).depthAfter 0 = t.depthAfter 0 := rfl
      have opens := Boundary.at?_respaced none t false ts
      rw [ofTokens, ofTokens, atStart, splitFrom, splitFrom, paren, depth, opens]
      split
      next => rfl
      next =>
        simp only [Option.isSome_none, Bool.false_and, Bool.false_eq_true, if_false]
        split
        next b here =>
          obtain ⟨pos, -⟩ := Boundary.at?_width here
          obtain ⟨n, width⟩ := Nat.exists_eq_add_of_le' pos
          simp only [width, List.take_succ_cons, List.filterMap_cons, part?_unspaced]
        next => rfl

end SqlGrader.Section

namespace SqlGrader.ClauseSet

open Token

theorem ofTokens_atStart (ts : List Token) : ofTokens (atStart ts) = ofTokens ts := by
  rw [ofTokens, Section.parts_atStart, ofTokens]

/-- The clauses of a statement do not see the semicolons at its end. -/
theorem ofTokens_dropTerminators (ts : List Token)
    (closed : depthAt 0 (NormalForm.dropTerminators ts) = 0) :
    ofTokens (NormalForm.dropTerminators ts) = ofTokens ts := by
  rw [ofTokens, Section.ofTokens_dropTerminators ts closed, ofTokens]

end SqlGrader.ClauseSet
