import SqlGrader.Proofs.Sql.NormalForm
import SqlGrader.Score.ExactMatch
/-!
# What exact match decides

Exact match compares two rendered texts. For statements that have tokens this
decides whether the tokens are the same: the texts of two legible lists agree
only where the lists do.
-/

namespace SqlGrader.ExactMatch

open Token NormalForm

variable {ts us : List Token} {reference predicted : Text}

/-- Tokens that read as one statement: as many on both sides, of the same kinds
and texts, keywords in capitals, and with gaps in the same places. What stands
before the first token is no part of the statement. -/
structure SameTokens (ts us : List Token) : Prop where
  left_ne_nil : ts ≠ []
  right_ne_nil : us ≠ []
  length_eq : ts.length = us.length
  agree (i : Nat) (ht : i < ts.length) (hu : i < us.length) :
    ts[i].kind = us[i].kind ∧ ts[i].foldedText = us[i].foldedText ∧
      (i ≠ 0 → ts[i].spaced = us[i].spaced)

/-- The verdict that gives a full score or none. -/
def Decides (v : Verdict Float) (right : Prop) : Prop :=
  (right → v.score = 1.0 ∧ v.isCorrect = true) ∧ (¬ right → v.score = 0.0 ∧ v.isCorrect = false)

theorem sameTokens_iff :
    SameTokens ts us ↔
      ts ≠ [] ∧ us ≠ [] ∧ atStart (ts.map folded) = atStart (us.map folded) := by
  rw [atStart_eq_iff]
  simp only [List.length_map, List.getElem_map]
  constructor
  · rintro ⟨left, right, len, agree⟩
    exact ⟨left, right, len, agree⟩
  · rintro ⟨left, right, len, agree⟩
    exact ⟨left, right, len, agree⟩

/-- The normal forms of two legible lists match if the lists without the
semicolons at their ends are the same tokens. -/
theorem isMatch_ofTokens (ht : Legible ts) (hu : Legible us) (a b : Reading) :
    isMatch ⟨ofTokens ts, a⟩ ⟨ofTokens us, b⟩ ↔
      SameTokens (dropTerminators ts) (dropTerminators us) := by
  have left := render_eq_nil (legible_foldedTokens ht)
  have right := render_eq_nil (legible_foldedTokens hu)
  simp only [foldedTokens, List.map_eq_nil_iff] at left right
  rw [sameTokens_iff, isMatch]
  simp only [Bool.and_eq_true, Bool.not_eq_true', List.isEmpty_eq_false_iff, beq_iff_eq]
  constructor
  · rintro ⟨nonempty, same⟩
    refine ⟨?_, ?_, ?_⟩
    · exact fun none => nonempty (left.mpr none)
    · exact fun none => nonempty (same.trans (right.mpr none))
    · exact atStart_eq_of_render_eq (legible_foldedTokens ht) (legible_foldedTokens hu) same
  · rintro ⟨nonempty, -, same⟩
    refine ⟨fun none => nonempty (left.mp none), ?_⟩
    have texts := congrArg render same
    rwa [render_atStart, render_atStart] at texts

theorem score_compare (reference predicted : Text) :
    Decides (compare reference predicted)
      (isMatch (ofStatement reference) (ofStatement predicted)) := by
  constructor
  · intro same
    constructor
    · simp only [compare, same]
      rfl
    · exact same
  · intro other
    rw [Bool.not_eq_true] at other
    constructor
    · simp only [compare, other]
      rfl
    · exact other

/-- Exact match decides whether two statements have the same tokens, up to the
case of keywords, the gaps before the first tokens and the semicolons at the
ends. -/
theorem score_decides_sameTokens {m : Type → Type} [Monad m] (c : Context m)
    (ts us : List Token) (left : Text.isAllBlank c.reference = false)
    (right : Text.isAllBlank c.predicted = false)
    (readLeft : tokenize c.reference = .ok ts) (readRight : tokenize c.predicted = .ok us) :
    ∃ v, metric.score c = pure (.value v) ∧
      Decides v (SameTokens (dropTerminators ts) (dropTerminators us)) := by
  refine ⟨compare c.reference c.predicted, ?_, ?_⟩
  · simp [metric, Metric.ofTexts, Metric.statements, left, right, Except.map, Attempt.ofExcept]
  · have same := isMatch_ofTokens (legible_of_tokenize readLeft) (legible_of_tokenize readRight)
      .tokens .tokens
    rw [← same]
    have verdict := score_compare c.reference c.predicted
    rwa [ofStatement, ofStatement, readLeft, readRight] at verdict

/-- Keywords in small letters, a comment and a semicolon do not matter. -/
theorem score_decides_sameTokens_select :
    ∃ v, (metric (m := Id)).score
        ⟨"q", "SELECT a".toList, "select /* all */ a;".toList, none⟩ = pure (.value v) ∧
      Decides v (SameTokens
        [⟨.word, "SELECT".toList, false⟩, ⟨.word, "a".toList, true⟩]
        [⟨.word, "select".toList, false⟩, ⟨.word, "a".toList, true⟩]) :=
  score_decides_sameTokens (m := Id) ⟨"q", "SELECT a".toList, "select /* all */ a;".toList, none⟩
    [⟨.word, "SELECT".toList, false⟩, ⟨.word, "a".toList, true⟩]
    [⟨.word, "select".toList, false⟩, ⟨.word, "a".toList, true⟩, ⟨.symbol, [';'], false⟩]
    (by decide) (by decide) (by decide +kernel) (by decide +kernel)

end SqlGrader.ExactMatch
