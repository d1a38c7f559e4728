import SqlGrader.Proofs.Sql.Cosmetic
import SqlGrader.Proofs.Sql.TokenText
import SqlGrader.Proofs.Text.Trim
/-!
# Token lists that differ in what readers do not see

Two lists of legible tokens are *twins* if they are the same up to a cosmetic
change, such as the case of keywords, and hold white space inside of quotes only.
Parts of twins that start and end at the same places are twins, and twins are read
back from their texts, which trimming leaves alone.
-/

namespace SqlGrader.Token

open Lexer

variable {t u : Token} {ts us vs : List Token} {rest : Text} {f : Token → Token}

/-- Whether the token holds white space inside of quotes only. -/
def Plain (t : Token) : Prop :=
  (t.kind = .stringLiteral ∨ t.kind = .quotedName) ∨ ∀ c ∈ t.text, ¬ Text.isBlank c

instance (t : Token) : Decidable t.Plain :=
  decidable_of_iff
    ((t.kind = .stringLiteral ∨ t.kind = .quotedName) ∨ t.text.all fun c => !Text.isBlank c)
    (by simp [Plain])

theorem plain_folded (t : Token) : t.folded.Plain ↔ t.Plain := by
  have blind : (∀ c ∈ t.foldedText, ¬ Text.isBlank c) ↔ ∀ c ∈ t.text, ¬ Text.isBlank c := by
    unfold foldedText
    split
    · simp [Text.upper, Text.isBlank_toUpper]
    · rfl
  simp only [Plain, kind_folded, text_folded, blind]

theorem Cosmetic.plain (cosmetic : Cosmetic f) (t : Token) : (f t).Plain ↔ t.Plain := by
  rw [← plain_folded, ← plain_folded t]
  simp only [Plain, kind_folded, text_folded, cosmetic.kind, cosmetic.foldedText]

theorem ReadsBefore.trimmed (reads : t.ReadsBefore rest) (plain : t.Plain) :
    Text.Trimmed t.text := by
  rcases plain with quoted | free
  · obtain ⟨c, tail, same, here⟩ := reads
    obtain ⟨quote, body, whole, closes⟩ := Lexeme.read_quoted here quoted
    have last := getLast?_of_closeQuote? closes
    have mark : ¬ Text.isBlank c := by
      rcases quote with rfl | rfl <;> decide
    rw [whole]
    constructor
    · simpa using mark
    · simpa [List.getLast?_cons, last] using mark
  · exact ⟨fun c mem => free c (List.mem_of_mem_head? mem),
      fun c mem => free c (List.mem_of_mem_getLast? mem)⟩

theorem getLast?_trail_append (ts : List Token) (nonempty : t.text ≠ []) :
    (trail (ts ++ [t])).getLast? = t.text.getLast? := by
  rw [trail_append, trail_cons, trail_nil, List.append_nil, spacedText]
  split
  · rw [List.getLast?_append_of_ne_nil _ (by simp), List.getLast?_cons_of_ne_nil nonempty]
  · rw [List.getLast?_append_of_ne_nil _ nonempty]

theorem getLast?_render_append (ts : List Token) (nonempty : t.text ≠ []) :
    (render (ts ++ [t])).getLast? = t.text.getLast? := by
  cases ts with
  | nil => simp [render_cons]
  | cons u us =>
      have after := getLast?_trail_append us nonempty
      have nonempty' : trail (us ++ [t]) ≠ [] := by
        intro none
        rw [none] at after
        exact nonempty (List.getLast?_eq_none_iff.mp after.symm)
      rw [List.cons_append, render_cons, List.getLast?_append_of_ne_nil _ nonempty', after]

/-- Texts with no white space around them have none around all of them. -/
theorem trimmed_render_of_forall (neat : ∀ t ∈ ts, t.text ≠ [] ∧ Text.Trimmed t.text) :
    Text.Trimmed (render ts) := by
  constructor
  · cases ts with
    | nil => simp [render]
    | cons t ts =>
        obtain ⟨nonempty, trimmed⟩ := neat t (by simp)
        obtain ⟨d, tail, same⟩ := List.exists_cons_of_ne_nil nonempty
        have first := trimmed.head
        rw [same] at first
        simpa [render_cons, same] using first
  · rcases List.eq_nil_or_concat ts with rfl | ⟨us, t, rfl⟩
    · simp [render]
    · rw [List.concat_eq_append] at neat ⊢
      obtain ⟨nonempty, trimmed⟩ := neat t (by simp)
      rw [getLast?_render_append us nonempty]
      exact trimmed.last

/-- The gap before the first token is trimmed. -/
theorem trim_trail_eq (ts : List Token) : Text.trim (trail ts) = Text.trim (render ts) := by
  cases ts with
  | nil => rfl
  | cons t ts =>
      rw [trail_cons, render_cons, spacedText]
      split
      · rw [List.cons_append, Text.trim_space_cons]
      · rfl

theorem trim_trail_of_forall (neat : ∀ t ∈ ts, t.text ≠ [] ∧ Text.Trimmed t.text) :
    Text.trim (trail ts) = render ts := by
  rw [trim_trail_eq, (trimmed_render_of_forall neat).trim]

theorem Legible.of_isInfix (legible : Legible ts) (part : us <:+: ts) : Legible us := by
  obtain ⟨before, after, rfl⟩ := part
  exact legible.append_left.append_right

theorem Legible.neat (legible : Legible ts) (plain : ∀ t ∈ ts, t.Plain) :
    ∀ t ∈ ts, t.text ≠ [] ∧ Text.Trimmed t.text := by
  induction ts with
  | nil => simp
  | cons t ts ih =>
      rw [List.forall_mem_cons] at plain ⊢
      exact ⟨⟨legible.1.text_ne_nil, legible.1.trimmed plain.1⟩, ih legible.2 plain.2⟩

/-- The text of plain tokens has no white space around it. -/
theorem trimmed_render (legible : Legible ts) (plain : ∀ t ∈ ts, t.Plain) :
    Text.Trimmed (render ts) :=
  trimmed_render_of_forall (legible.neat plain)

theorem trim_trail (legible : Legible ts) (plain : ∀ t ∈ ts, t.Plain) :
    Text.trim (trail ts) = render ts :=
  trim_trail_of_forall (legible.neat plain)

theorem plain_atStart (plain : ∀ t ∈ ts, t.Plain) : ∀ t ∈ atStart ts, t.Plain := by
  cases ts with
  | nil => simp [atStart]
  | cons t ts => simpa [atStart, Plain] using plain

/-- Two lists of legible and plain tokens that a change makes the same. -/
structure Twin (f : Token → Token) (ts us : List Token) : Prop where
  left : Legible ts
  right : Legible us
  plain_left : ∀ t ∈ ts, t.Plain
  plain_right : ∀ u ∈ us, u.Plain
  same : ts.map f = us.map f

namespace Twin

/-- Legible lists that are made the same are twins if one of them is plain. -/
theorem of_same (cosmetic : Cosmetic f) (left : Legible ts) (right : Legible us)
    (plain : ∀ t ∈ ts, t.Plain) (same : ts.map f = us.map f) : Twin f ts us :=
  ⟨left, right, plain, forall_of_map_eq cosmetic.plain same plain, same⟩

theorem symm (twin : Twin f ts us) : Twin f us ts :=
  ⟨twin.right, twin.left, twin.plain_right, twin.plain_left, twin.same.symm⟩

theorem length_eq (twin : Twin f ts us) : ts.length = us.length := by
  simpa using congrArg List.length twin.same

/-- Stretches of twins that agree are twins. -/
theorem of_within {piece other : List Token} (twin : Twin f ts us) (left : piece <:+: ts)
    (right : other <:+: us) (same : piece.map f = other.map f) :
    Twin f piece other := by
  refine ⟨twin.left.of_isInfix left, twin.right.of_isInfix right, ?_, ?_, same⟩
  · exact fun t mem => twin.plain_left t (left.subset mem)
  · exact fun u mem => twin.plain_right u (right.subset mem)

theorem uncons (twin : Twin f (t :: ts) us) :
    ∃ u us', us = u :: us' ∧ f t = f u ∧ Twin f ts us' := by
  obtain ⟨u, us', rfl, here, rest⟩ := List.map_eq_cons_iff.mp twin.same.symm
  refine ⟨u, us', rfl, here.symm, twin.of_within ?_ ?_ rest.symm⟩
  · exact (List.suffix_cons t ts).isInfix
  · exact (List.suffix_cons u us').isInfix

theorem split (twin : Twin f (ts ++ vs) us) :
    ∃ us₁ us₂, us = us₁ ++ us₂ ∧ Twin f ts us₁ ∧ Twin f vs us₂ := by
  have same := twin.same
  rw [List.map_append] at same
  obtain ⟨us₁, us₂, rfl, front, back⟩ := List.map_eq_append_iff.mp same.symm
  refine ⟨us₁, us₂, rfl, twin.of_within ?_ ?_ front.symm, twin.of_within ?_ ?_ back.symm⟩
  · exact (List.prefix_append ts vs).isInfix
  · exact (List.prefix_append us₁ us₂).isInfix
  · exact (List.suffix_append ts vs).isInfix
  · exact (List.suffix_append us₁ us₂).isInfix

theorem atStart (cosmetic : Cosmetic f) (twin : Twin f ts us) :
    Twin f (atStart ts) (atStart us) := by
  obtain ⟨left, right, plain, plain', same⟩ := twin
  refine ⟨left.atStart, right.atStart, plain_atStart plain, plain_atStart plain', ?_⟩
  rw [cosmetic.neutral.map_atStart, same, cosmetic.neutral.map_atStart]

theorem trim_render (twin : Twin f ts us) : Text.trim (render ts) = render ts :=
  (trimmed_render twin.left twin.plain_left).trim

/-- Twins are read back from their texts. -/
theorem tokenize_render (twin : Twin f ts us) : tokenize (render ts) = .ok (Token.atStart ts) :=
  Token.tokenize_render twin.left

theorem nil_iff (twin : Twin f ts us) : ts = [] ↔ us = [] := by
  rw [← List.length_eq_zero_iff, twin.length_eq, List.length_eq_zero_iff]

/-- What follows another token is the same text up to letter case if only the case of keywords
differs. -/
theorem upper_trail (twin : Twin folded ts us) : Text.upper (trail ts) = Text.upper (trail us) := by
  rw [← upper_trail_map_folded ts, twin.same, upper_trail_map_folded us]

end Twin

end SqlGrader.Token
