import Mathlib.Algebra.Order.BigOperators.Group.List
import Mathlib.Algebra.Order.Field.Rat
import Mathlib.Tactic.Linarith
import Mathlib.Tactic.Ring
import SqlGrader.Proofs.Score.Agreement
/-!
# Component match as a similarity

In exact numbers every clause score and the total lie between zero and one, so
the total is never cut off. The total is one only where all clause scores are,
and a statement compared with itself has the full score, whether it has tokens
or not.
-/

namespace SqlGrader

/-! ### Exact scores -/

namespace Scale

theorem sum_eq (xs : List Rat) : (Scale.sum xs : Rat) = xs.sum := by
  rw [List.sum_eq_foldl]
  rfl

/-- A part of a whole lies between zero and one. -/
theorem ratio_mem {part whole : Nat} (within : part ≤ whole) :
    (Scale.ratio part whole : Rat) ∈ Set.Icc 0 1 := by
  have nonneg : (0 : Rat) ≤ whole := Nat.cast_nonneg whole
  have cast : (part : Rat) ≤ whole := Nat.cast_le.mpr within
  show (part : Rat) / whole ∈ Set.Icc 0 1
  exact ⟨div_nonneg (Nat.cast_nonneg part) nonneg, div_le_one_of_le₀ cast nonneg⟩

theorem one_mem : (Scale.ofNat 1 : Rat) ∈ Set.Icc 0 1 := by
  show ((1 : Nat) : Rat) ∈ Set.Icc 0 1
  norm_num

theorem zero_mem : (Scale.ofNat 0 : Rat) ∈ Set.Icc 0 1 := by
  show ((0 : Nat) : Rat) ∈ Set.Icc 0 1
  norm_num

end Scale

namespace Similarity

variable {κ : Type} [DecidableEq κ]

theorem jaccard_mem (left right : List κ) : (jaccard left right : Rat) ∈ Set.Icc 0 1 := by
  unfold jaccard
  split
  · exact Scale.one_mem
  · exact Scale.ratio_mem (commonCount_le_unionCount left right)

end Similarity

namespace Verdict

/-- A score between zero and one is kept. -/
theorem clamp_of_mem {x : Rat} (mem : x ∈ Set.Icc (0 : Rat) 1) : clamp x = x := by
  have low : Scale.reaches x (Scale.ofNat 0 : Rat) = true := decide_eq_true mem.1
  have high : Scale.reaches (Scale.ofNat 1 : Rat) x = true := decide_eq_true mem.2
  rw [clamp, if_pos low, if_pos high]

end Verdict

namespace ComponentMatch

variable {r p : Statement}

namespace Credit

theorem value_mem (credit : Credit) : (credit.value : Rat) ∈ Set.Icc 0 1 := by
  cases credit with
  | none => exact Scale.zero_mem
  | expressionOnly => exact Scale.ratio_mem (by decide)
  | full => exact Scale.one_mem

/-- No item has more than the full credit, so their sum is within their number. -/
theorem sum_value_mem (credits : List Credit) :
    (credits.map (Credit.value : Credit → Rat)).sum ∈ Set.Icc (0 : Rat) credits.length := by
  constructor
  · apply List.sum_nonneg
    intro x mem
    obtain ⟨credit, -, rfl⟩ := List.mem_map.mp mem
    exact credit.value_mem.1
  · have bound := List.sum_le_card_nsmul (credits.map (Credit.value : Credit → Rat)) 1 ?_
    · simpa using bound
    · intro x mem
      obtain ⟨credit, -, rfl⟩ := List.mem_map.mp mem
      exact credit.value_mem.2

theorem mean_mem (credits : List Credit) : (mean credits : Rat) ∈ Set.Icc 0 1 := by
  unfold mean
  split
  · exact Scale.one_mem
  · rw [Scale.sum_eq]
    obtain ⟨low, high⟩ := sum_value_mem credits
    show _ / (credits.length : Rat) ∈ Set.Icc 0 1
    exact ⟨div_nonneg low (Nat.cast_nonneg _), div_le_one_of_le₀ high (Nat.cast_nonneg _)⟩

end Credit

theorem projectionScore_mem (reference predicted : List ProjectionItem) :
    (projectionScore reference predicted : Rat) ∈ Set.Icc 0 1 := by
  unfold projectionScore
  split
  · exact Similarity.jaccard_mem _ _
  · exact Credit.mean_mem _

theorem presentScore_mem (kind : ClauseKind) (r p : Statement) :
    (presentScore kind r p : Rat) ∈ Set.Icc 0 1 := by
  cases kind with
  | projection => exact projectionScore_mem _ _
  | limit =>
      simp only [presentScore]
      split
      · exact Scale.one_mem
      · exact Scale.zero_mem
  | _ => exact Similarity.jaccard_mem _ _

theorem clauseScore_mem (kind : ClauseKind) (r p : Statement) :
    (clauseScore kind r p : Rat) ∈ Set.Icc 0 1 := by
  unfold clauseScore
  split
  · exact Scale.one_mem
  · exact presentScore_mem kind r p
  · exact Scale.zero_mem

/-! ### The total -/

/-- The total is the mean of the clause scores by weight. -/
theorem totalScore_eq_mean (r p : Statement) :
    (totalScore r p : Rat) =
      (order.map fun kind => (weight kind : Rat) * clauseScore kind r p).sum / totalWeight := by
  rw [totalScore, Scale.sum_eq]
  rfl

/-- The same, clause by clause. -/
theorem totalScore_eq (r p : Statement) :
    (totalScore r p : Rat) =
      (2500 * clauseScore .projection r p + 2000 * clauseScore .source r p +
        2000 * clauseScore .filter r p + 1500 * clauseScore .joins r p +
        1000 * clauseScore .grouping r p + 500 * clauseScore .ordering r p +
        300 * clauseScore .having r p + 200 * clauseScore .limit r p) / 10000 := by
  rw [totalScore_eq_mean]
  simp only [order, List.map_cons, List.map_nil, List.sum_cons, List.sum_nil, weight, totalWeight]
  push_cast
  ring

theorem totalScore_mem (r p : Statement) : (totalScore r p : Rat) ∈ Set.Icc 0 1 := by
  have bounds := fun kind => clauseScore_mem kind r p
  rw [totalScore_eq]
  constructor
  · linarith [(bounds .projection).1, (bounds .source).1, (bounds .filter).1, (bounds .joins).1,
      (bounds .grouping).1, (bounds .ordering).1, (bounds .having).1, (bounds .limit).1]
  · linarith [(bounds .projection).2, (bounds .source).2, (bounds .filter).2, (bounds .joins).2,
      (bounds .grouping).2, (bounds .ordering).2, (bounds .having).2, (bounds .limit).2]

/-- The total is full only where every clause score is. -/
theorem totalScore_eq_one_iff (r p : Statement) :
    (totalScore r p : Rat) = 1 ↔ ∀ kind, (clauseScore kind r p : Rat) = 1 := by
  have below := fun kind => (clauseScore_mem kind r p).2
  rw [totalScore_eq]
  constructor
  · intro full kind
    apply le_antisymm (below kind)
    cases kind <;>
      linarith [below .projection, below .source, below .filter, below .joins, below .grouping,
        below .ordering, below .having, below .limit]
  · intro full
    simp only [full]
    norm_num

/-- Exact scores of two statements are normalized. -/
structure Normalized (r p : Statement) : Prop where
  clause (kind : ClauseKind) : (clauseScore kind r p : Rat) ∈ Set.Icc 0 1
  absent (kind : ClauseKind) (left : r.clauses.isPresent kind = false)
    (right : p.clauses.isPresent kind = false) : (clauseScore kind r p : Rat) = 1
  oneSided (kind : ClauseKind) (differ : r.clauses.isPresent kind ≠ p.clauses.isPresent kind) :
    (clauseScore kind r p : Rat) = 0
  mean : (totalScore r p : Rat) =
    (order.map fun kind => (weight kind : Rat) * clauseScore kind r p).sum / totalWeight
  total : (totalScore r p : Rat) ∈ Set.Icc 0 1
  clamp : Verdict.clamp (totalScore r p : Rat) = totalScore r p
  full : (totalScore r p : Rat) = 1 ↔ ∀ kind, (clauseScore kind r p : Rat) = 1

theorem normalized (r p : Statement) : Normalized r p := by
  refine ⟨fun kind => clauseScore_mem kind r p, ?_, ?_, totalScore_eq_mean r p, totalScore_mem r p,
    Verdict.clamp_of_mem (totalScore_mem r p), totalScore_eq_one_iff r p⟩
  · intro kind left right
    rw [clauseScore, left, right]
    exact Nat.cast_one
  · intro kind differ
    have none : (Scale.ofNat 0 : Rat) = 0 := Nat.cast_zero
    rw [clauseScore]
    cases left : r.clauses.isPresent kind with
    | true =>
        cases right : p.clauses.isPresent kind with
        | true => exact absurd (left.trans right.symm) differ
        | false => exact none
    | false =>
        cases right : p.clauses.isPresent kind with
        | true => exact none
        | false => exact absurd (left.trans right.symm) differ

/-- The verdict on two statements reports the scores that are normalized in exact numbers, and a
statement has the full score against itself, exactly and as it is reported. -/
theorem score_normalized {m : Type → Type} [Monad m] (id : String) (reference predicted : Text)
    (handle : Option (Handle m)) (left : Text.isAllBlank reference = false)
    (right : Text.isAllBlank predicted = false) :
    (∃ v, metric.score ⟨id, reference, predicted, handle⟩ = pure (.value v) ∧
        Reports defaultThreshold (Statement.ofText reference) (Statement.ofText predicted) v) ∧
      Normalized (Statement.ofText reference) (Statement.ofText predicted) ∧
      (∀ kind, (clauseScore kind (Statement.ofText reference) (Statement.ofText reference) :
        Rat) = 1) ∧
      (totalScore (Statement.ofText reference) (Statement.ofText reference) : Rat) = 1 ∧
      ∃ v, metric.score ⟨id, reference, reference, handle⟩ = pure (.value v) ∧ v.score = 1.0 ∧
        v.isCorrect = true ∧ ∀ kind, reportedScore? v kind = some 1.0 := by
  have agrees := Statement.Agrees.refl (Statement.ofText reference)
  have clauses (kind : ClauseKind) :
      (clauseScore kind (Statement.ofText reference) (Statement.ofText reference) : Rat) = 1 :=
    (agrees.clauseScore kind).trans Nat.cast_one
  obtain ⟨v, value, score, correct, scores⟩ :=
    score_of_agrees ⟨id, reference, reference, handle⟩ left left agrees
  exact ⟨score_reports defaultThreshold ⟨id, reference, predicted, handle⟩ left right,
    normalized _ _, clauses, (totalScore_eq_one_iff _ _).mpr clauses, v, value, score, correct,
    fun kind => (scores kind).2⟩

/-- A statement with a quote that is left open, and one that selects the same item twice. -/
theorem score_normalized_repeated :
    Text.isAllBlank "SELECT a, a AS b, a FROM t, t LIMIT 'x".toList = false ∧
      Text.isAllBlank "SELECT a b, a, c FROM t".toList = false ∧
      (∃ v, (metric (m := Id)).score ⟨"q", "SELECT a, a AS b, a FROM t, t LIMIT 'x".toList,
          "SELECT a b, a, c FROM t".toList, none⟩ = pure (.value v) ∧
        Reports defaultThreshold
          (Statement.ofText "SELECT a, a AS b, a FROM t, t LIMIT 'x".toList)
          (Statement.ofText "SELECT a b, a, c FROM t".toList) v) ∧
      Normalized (Statement.ofText "SELECT a, a AS b, a FROM t, t LIMIT 'x".toList)
        (Statement.ofText "SELECT a b, a, c FROM t".toList) ∧
      (∀ kind, (clauseScore kind
        (Statement.ofText "SELECT a, a AS b, a FROM t, t LIMIT 'x".toList)
        (Statement.ofText "SELECT a, a AS b, a FROM t, t LIMIT 'x".toList) : Rat) = 1) ∧
      (totalScore (Statement.ofText "SELECT a, a AS b, a FROM t, t LIMIT 'x".toList)
        (Statement.ofText "SELECT a, a AS b, a FROM t, t LIMIT 'x".toList) : Rat) = 1 ∧
      ∃ v, (metric (m := Id)).score ⟨"q", "SELECT a, a AS b, a FROM t, t LIMIT 'x".toList,
          "SELECT a, a AS b, a FROM t, t LIMIT 'x".toList, none⟩ = pure (.value v) ∧
        v.score = 1.0 ∧ v.isCorrect = true ∧ ∀ kind, reportedScore? v kind = some 1.0 :=
  ⟨by decide, by decide,
    score_normalized (m := Id) "q" "SELECT a, a AS b, a FROM t, t LIMIT 'x".toList
      "SELECT a b, a, c FROM t".toList none (by decide) (by decide)⟩

end ComponentMatch

end SqlGrader
