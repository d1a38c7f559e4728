import SqlGrader.Data.WrittenNumber
import SqlGrader.Proofs.Number.Notation
/-!
# Cells of decimals

Two decimals have the same cell if and only if they are the same number: a number has
one normalized decimal, which decides the cell, and the cell can be read back.
-/

namespace SqlGrader

/-- Magnitudes with signs are equal if both are zero, or the signs are equal too. -/
theorem signed_inj {s s' : Bool} {x y : ℚ} (hx : 0 ≤ x) (hy : 0 ≤ y)
    (same : signed s x = signed s' y) : x = y ∧ (x = 0 ∨ s = s') := by
  cases s <;> cases s' <;> simp only [signed, Bool.false_eq_true, if_false, if_true] at same
  · exact ⟨same, .inr rfl⟩
  · exact ⟨by linarith, .inl (by linarith)⟩
  · exact ⟨by linarith, .inl (by linarith)⟩
  · exact ⟨neg_inj.mp same, .inr rfl⟩

namespace Decimal

variable {d e : Decimal}

theorem IsStripped.places_eq_zero (h : d.IsStripped) (zero : d.units = 0) : d.places = 0 :=
  h.resolve_right fun rest => rest (by rw [zero])

/-- The magnitudes of equal numbers have one stripped form. -/
theorem strip_eq_of_value (same : d.value = e.value) :
    d.strip.units = e.strip.units ∧ d.strip.places = e.strip.places ∧
      (d.strip.units = 0 ∨ d.strip.negative = e.strip.negative) := by
  rw [← value_strip d, ← value_strip e, value_eq, value_eq] at same
  obtain ⟨magnitude, sign⟩ := signed_inj (by positivity) (by positivity) same
  obtain ⟨units, places⟩ := (isStripped_strip d).eq_of_magnitude (isStripped_strip e) magnitude
  refine ⟨units, places, ?_⟩
  obtain zero | sign := sign
  · rw [div_eq_zero_iff, or_iff_left (by positivity)] at zero
    exact .inl (by exact_mod_cast zero)
  · exact .inr sign

/-- A number has one normalized decimal. -/
theorem normalize_eq_of_value (same : d.value = e.value) : d.normalize = e.normalize := by
  obtain ⟨units, places, sign⟩ := strip_eq_of_value same
  obtain zero | sign := sign
  · simp [normalize, ← units, ← places, zero]
  · simp [normalize, ← units, ← places, ← sign]

/-- Only zero with a sign has another normalized form than the stripped one. -/
theorem normalize_eq_strip (h : ¬ (d.strip.negative = true ∧ d.strip.units = 0)) :
    d.normalize = d.strip := by
  have sign : (d.strip.negative && d.strip.units != 0) = d.strip.negative := by
    cases hn : d.strip.negative
    · rfl
    · have : d.strip.units ≠ 0 := fun zero => h ⟨hn, zero⟩
      simp [this]
  rw [normalize, sign]

theorem normalize_of_zero (zero : d.strip.units = 0) : d.normalize = ⟨false, 0, 0⟩ := by
  have places := (isStripped_strip d).places_eq_zero zero
  simp [normalize, zero, places]

theorem value_normalize (d : Decimal) : d.normalize.value = d.value := by
  by_cases zero : d.strip.negative = true ∧ d.strip.units = 0
  · rw [normalize_of_zero zero.2, ← value_strip d, value_eq, value_eq, zero.2]
    simp [signed]
  · rw [normalize_eq_strip zero, value_strip]

theorem normalize_normalize (d : Decimal) : d.normalize.normalize = d.normalize :=
  normalize_eq_of_value (value_normalize d)

end Decimal

namespace Cell

/-- The number that a cell holds. -/
def number? : Cell → Option ℚ
  | int n => some n
  | decimal t => (NumericText.exactPlain? t).map Decimal.value
  | _ => none

theorem value_of_integer? {d : Decimal} {n : ℤ} (h : integer? d = some n) : d.value = n := by
  unfold integer? at h
  split at h
  case isTrue zero =>
    cases h
    rw [Decimal.value_eq, zero, pow_zero, div_one, signed]
    split <;> push_cast <;> rfl
  case isFalse => contradiction

/-- The normalized decimal decides the cell. -/
theorem ofDecimal_eq (d : Decimal) :
    ofDecimal d = integerOr d.normalize.text ((integer? d.normalize).filter isInt64) := by
  -- Stripping and normalizing differ in the sign of zero only, and that does not reach the cell.
  by_cases zero : d.strip.negative = true ∧ d.strip.units = 0
  · have places := (Decimal.isStripped_strip d).places_eq_zero zero.2
    have integer : integer? d.strip = some 0 := by
      rw [integer?, if_pos places, if_pos zero.1, zero.2]
      rfl
    simp only [ofDecimal, integer, Decimal.normalize_of_zero zero.2]
    rfl
  · rw [Decimal.normalize_eq_strip zero, ofDecimal]
    cases integer? d.strip with
    | none => rfl
    | some n => cases inside : isInt64 n <;> simp [Option.filter, integerOr, inside]

theorem number?_ofDecimal (d : Decimal) : (ofDecimal d).number? = some d.value := by
  rw [ofDecimal_eq, ← Decimal.value_normalize d]
  cases integer : (integer? d.normalize).filter isInt64 with
  | some n =>
    rw [value_of_integer? (Option.filter_eq_some_iff.mp integer).1]
    rfl
  | none => exact congrArg (Option.map Decimal.value) (NumericText.exactPlain?_text d.normalize)

/-- Decimals have the same cell if and only if they are the same number. -/
theorem ofDecimal_eq_iff (d e : Decimal) : ofDecimal d = ofDecimal e ↔ d.value = e.value := by
  constructor
  · intro same
    have numbers := congrArg number? same
    rw [number?_ofDecimal, number?_ofDecimal] at numbers
    exact Option.some.inj numbers
  · intro same
    rw [ofDecimal_eq, ofDecimal_eq, Decimal.normalize_eq_of_value same]

/-- The decimal of an integer. -/
def wholeDecimal (n : ℤ) : Decimal := ⟨decide (n < 0), n.natAbs, 0⟩

theorem integer?_wholeDecimal (n : ℤ) : integer? (wholeDecimal n) = some n := by
  have units : (if (wholeDecimal n).negative then -((wholeDecimal n).units : ℤ)
      else (wholeDecimal n).units) = n := by
    simp only [wholeDecimal, decide_eq_true_eq]
    split <;> omega
  exact (if_pos rfl).trans (congrArg some units)

theorem value_wholeDecimal (n : ℤ) : (wholeDecimal n).value = n :=
  value_of_integer? (integer?_wholeDecimal n)

/-- The cell of a number is an integer if and only if the number is one of 64 bits. -/
theorem ofDecimal_eq_int_iff {d : Decimal} {n : ℤ} :
    ofDecimal d = int n ↔ d.value = n ∧ isInt64 n := by
  constructor
  · intro cell
    have number := congrArg number? cell
    rw [number?_ofDecimal] at number
    refine ⟨Option.some.inj number, ?_⟩
    rw [ofDecimal_eq] at cell
    cases integer : (integer? d.normalize).filter isInt64 with
    | some m =>
      rw [integer] at cell
      cases cell
      exact (Option.filter_eq_some_iff.mp integer).2
    | none =>
      rw [integer] at cell
      contradiction
  · rintro ⟨value, inside⟩
    have same : ofDecimal d = ofDecimal (wholeDecimal n) :=
      (ofDecimal_eq_iff _ _).mpr (value.trans (value_wholeDecimal n).symm)
    have stripped : (wholeDecimal n).strip = wholeDecimal n := rfl
    rw [same, ofDecimal]
    simp only [stripped, integer?_wholeDecimal, inside, if_true]

end Cell

end SqlGrader
