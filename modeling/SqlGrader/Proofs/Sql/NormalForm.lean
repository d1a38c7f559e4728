import SqlGrader.Proofs.Sql.Rendering
import SqlGrader.Sql.NormalForm
import Mathlib.Data.List.DropRight
/-!
# Normal forms of statements that have tokens

The normal form of such a statement is the text of its tokens without the
semicolons at the end, keywords in capitals. It has those tokens itself, so two
normal forms are the same text only if they stand for the same tokens.
-/

namespace SqlGrader.Token

variable {t : Token} {ts us : List Token}

@[simp] theorem isFoldable_folded (t : Token) : t.folded.isFoldable = t.isFoldable := by
  unfold folded isFoldable foldedText
  split
  · simp [Keyword.isFoldable, Keyword.isReserved, Keyword.isFunction, Keyword.holds]
  · rfl

@[simp] theorem foldedText_folded (t : Token) : t.folded.foldedText = t.foldedText := by
  rw [foldedText, isFoldable_folded]
  by_cases fold : t.isFoldable <;> simp [folded, foldedText, fold]

@[simp] theorem folded_folded (t : Token) : t.folded.folded = t.folded := by
  conv_lhs => rw [folded, foldedText_folded]
  rfl

theorem map_folded_atStart (ts : List Token) :
    (atStart ts).map folded = atStart (ts.map folded) := by
  cases ts <;> rfl

theorem eq_of_parts {u : Token} (kind : t.kind = u.kind) (text : t.text = u.text)
    (spaced : t.spaced = u.spaced) :
    t = u := by
  cases t
  cases u
  simp_all

/-- Two lists are the same but for the mark of the first token if they are as
long as each other and agree at every index. -/
theorem atStart_eq_iff :
    atStart ts = atStart us ↔
      ts.length = us.length ∧
        ∀ (i : Nat) (ht : i < ts.length) (hu : i < us.length),
          ts[i].kind = us[i].kind ∧ ts[i].text = us[i].text ∧
            (i ≠ 0 → ts[i].spaced = us[i].spaced) := by
  cases ts with
  | nil => cases us <;> simp [atStart]
  | cons t ts =>
      cases us with
      | nil => simp [atStart]
      | cons u us =>
          constructor
          · intro same
            obtain ⟨⟨kind, text⟩, rfl⟩ : (t.kind = u.kind ∧ t.text = u.text) ∧ ts = us := by
              simpa [atStart] using same
            refine ⟨rfl, fun i ht hu => ?_⟩
            cases i with
            | zero => exact ⟨kind, text, fun first => absurd rfl first⟩
            | succ i => exact ⟨rfl, rfl, fun _ => rfl⟩
          · rintro ⟨len, agree⟩
            obtain ⟨kind, text, -⟩ := agree 0 (Nat.succ_pos _) (Nat.succ_pos _)
            have rest : ts = us := by
              refine List.ext_getElem (Nat.succ.inj len) fun i ht hu => ?_
              obtain ⟨kind, text, spaced⟩ :=
                agree (i + 1) (Nat.succ_lt_succ ht) (Nat.succ_lt_succ hu)
              exact eq_of_parts kind text (spaced (Nat.succ_ne_zero i))
            have first : ({ t with spaced := false } : Token) = { u with spaced := false } :=
              eq_of_parts kind text rfl
            rw [atStart, atStart, rest, first]

end SqlGrader.Token

namespace SqlGrader.NormalForm

open Token

variable {t : Token} {ts us : List Token}

/-- A semicolon has no capital. -/
@[simp] theorem isTerminator_folded (t : Token) : isTerminator t.folded = isTerminator t := by
  by_cases fold : t.isFoldable
  · have word := isFoldable_word fold
    have noSymbol : (TokenKind.word == TokenKind.symbol) = false := rfl
    simp [isTerminator, folded, word, noSymbol]
  · simp [isTerminator, folded, foldedText, fold]

@[simp] theorem isTerminator_unspaced (t : Token) :
    isTerminator { t with spaced := false } = isTerminator t := rfl

theorem dropTerminators_eq (ts : List Token) :
    dropTerminators ts = ts.rdropWhile isTerminator := rfl

theorem dropTerminators_isPrefix (ts : List Token) : dropTerminators ts <+: ts :=
  List.rdropWhile_prefix isTerminator ts

theorem dropTerminators_map_folded (ts : List Token) :
    dropTerminators (ts.map folded) = (dropTerminators ts).map folded := by
  have commutes : isTerminator ∘ folded = isTerminator := funext isTerminator_folded
  rw [dropTerminators, dropTerminators, ← List.map_reverse, List.dropWhile_map, commutes,
    List.map_reverse]

theorem dropTerminators_atStart (ts : List Token) :
    dropTerminators (atStart ts) = atStart (dropTerminators ts) := by
  simp only [dropTerminators_eq]
  induction ts using List.reverseRecOn with
  | nil => rfl
  | append_singleton ts t ih =>
      cases ts with
      | nil =>
          by_cases last : isTerminator t <;>
            simp [atStart, List.rdropWhile_singleton, last]
      | cons u us =>
          have start : atStart (u :: us ++ [t]) = atStart (u :: us) ++ [t] := rfl
          rw [start, List.rdropWhile_concat, List.rdropWhile_concat, ih]
          split <;> rfl

@[simp] theorem dropTerminators_dropTerminators (ts : List Token) :
    dropTerminators (dropTerminators ts) = dropTerminators ts :=
  List.rdropWhile_idempotent isTerminator ts

theorem legible_dropTerminators (legible : Legible ts) : Legible (dropTerminators ts) := by
  obtain ⟨more, same⟩ := dropTerminators_isPrefix ts
  rw [← same] at legible
  exact legible.append_left

/-- The tokens that a normal form stands for. -/
def foldedTokens (ts : List Token) : List Token := (dropTerminators ts).map folded

theorem legible_foldedTokens (legible : Legible ts) : Legible (foldedTokens ts) :=
  (legible_dropTerminators legible).map_folded

theorem ofTokens_eq_render (ts : List Token) : ofTokens ts = render (foldedTokens ts) := rfl

/-- The normal form has the tokens that it stands for. -/
theorem tokenize_ofTokens (legible : Legible ts) :
    tokenize (ofTokens ts) = .ok (atStart (foldedTokens ts)) :=
  tokenize_render (legible_foldedTokens legible)

theorem foldedTokens_atStart (ts : List Token) :
    foldedTokens (atStart ts) = atStart (foldedTokens ts) := by
  rw [foldedTokens, dropTerminators_atStart, map_folded_atStart, foldedTokens]

/-- The normal form of tokens is its own normal form. -/
theorem ofTokens_atStart_foldedTokens (ts : List Token) :
    ofTokens (atStart (foldedTokens ts)) = ofTokens ts := by
  have kept : foldedTokens (foldedTokens ts) = foldedTokens ts := by
    simp [foldedTokens, dropTerminators_map_folded]
  rw [ofTokens_eq_render, ofTokens_eq_render, foldedTokens_atStart, kept, render_atStart]

theorem normalize_of_tokenize {sql : Text} (read : tokenize sql = .ok ts) :
    normalize sql = ofTokens ts := by
  rw [normalize, ofStatement, read]

theorem normalize_render (legible : Legible ts) : normalize (render ts) = ofTokens ts := by
  rw [normalize_of_tokenize (tokenize_render legible), ofTokens_eq_render, foldedTokens_atStart,
    render_atStart, ofTokens_eq_render]

end SqlGrader.NormalForm
