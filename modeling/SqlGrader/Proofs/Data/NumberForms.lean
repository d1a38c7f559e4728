import SqlGrader.Proofs.Data.WrittenNumber
/-!
# What numbers of different types have in common

A value stands for a rational number if it is an integer, a finite float or a text that
is read without loss. The cells of such values say which of them stand for the same
number after rounding, whatever their types are. Only a float that takes more places
than there can be has no cell.
-/

namespace SqlGrader

/-- The value is the number, exactly. -/
inductive Value.Stands : Value → ℚ → Prop
  | int {n : ℤ} (inside : isInt64 n) : Stands (.int n) n
  | float {x : Float} {negative : Bool} {mantissa : ℕ} {exponent : ℤ}
      (finite : Binary64.ofFloat x = .finite negative mantissa exponent) :
      Stands (.float x) (Binary64.toRat negative mantissa exponent)
  /-- The text is read, and nothing of its number is lost. -/
  | numeric {t : Text} {d : Decimal} (read : NumericText.read? (Text.trim t) = some d)
      (whole : NumericText.value? (Text.trim t) = some d.value) :
      Stands (.numeric t) d.value

namespace Value.Stands

variable {v w : Value} {q r : ℚ}

/-- No text of at most 96 bits of units and 28 places loses anything. -/
theorem of_exactPlain? {t : Text} {d : Decimal}
    (exact : NumericText.exactPlain? (Text.trim t) = some d) (fits : d.units < 2 ^ 96)
    (few : d.places ≤ 28) : Stands (.numeric t) d.value := by
  obtain ⟨read, whole⟩ := NumericText.read?_of_exactPlain? exact fits few
  exact .numeric read whole

/-- The cell of the value is the one of the rounded number. -/
theorem ofValue_eq (h : v.Stands q) (places : ℕ) :
    ∃ d : Decimal, Cell.ofValue places v = Cell.ofDecimal d ∧ d.value = toPlaces places q := by
  cases h with
  | @int n inside =>
    refine ⟨Cell.wholeDecimal n, ?_, ?_⟩
    swap
    · rw [Cell.value_wholeDecimal, toPlaces_intCast]
    exact (Cell.ofDecimal_eq_int_iff.mpr ⟨Cell.value_wholeDecimal n, inside⟩).symm
  | @float x negative mantissa exponent finite =>
    refine ⟨.ofBinary places negative mantissa exponent, ?_,
      Decimal.value_ofBinary places negative mantissa (Binary64.least_of_ofBits finite)⟩
    rw [Cell.ofValue, Cell.ofFloat, finite]
  | @numeric t d read whole =>
    refine ⟨d.roundTo places, ?_, Decimal.value_roundTo places d⟩
    rw [Cell.ofValue, Cell.ofNumeric, read]

/-- Values have the same cell if and only if their numbers are rounded to the same number. -/
theorem ofValue_eq_iff (left : v.Stands q) (right : w.Stands r) (places : ℕ) :
    Cell.ofValue places v = Cell.ofValue places w ↔ toPlaces places q = toPlaces places r := by
  obtain ⟨d, cell, value⟩ := left.ofValue_eq places
  obtain ⟨e, cell', value'⟩ := right.ofValue_eq places
  rw [cell, cell', Cell.ofDecimal_eq_iff, value, value']

/-- The cell is an integer if and only if the number is rounded to one of 64 bits. -/
theorem ofValue_eq_int_iff (h : v.Stands q) (places : ℕ) (n : ℤ) :
    Cell.ofValue places v = .int n ↔ toPlaces places q = n ∧ isInt64 n := by
  obtain ⟨d, cell, value⟩ := h.ofValue_eq places
  rw [cell, Cell.ofDecimal_eq_int_iff, value]

end Value.Stands

namespace Cell

theorem ofValue?_eq_none_iff (places : ℕ) (v : Value) :
    ofValue? places v = none ↔ FixedPlaces.limit < places ∧ takesPlaces v = true := by
  rw [ofValue?_eq]
  cases takesPlaces v <;> simp

theorem ofValue_of_ofValue? {places : ℕ} {v : Value} {c : Cell}
    (cell : ofValue? places v = some c) : c = ofValue places v := by
  rw [ofValue?_eq] at cell
  split at cell
  case isTrue => exact (Option.some.inj cell).symm
  case isFalse => contradiction

/-- What the cells of two values say about the numbers `q` and `r` that the values are. -/
structure Canonical (places : ℕ) (v w : Value) (q r : ℚ) : Prop where
  /-- Only a float that is no integer of 64 bits has no cell, where the places are too many. -/
  left : ofValue? places v = none ↔ FixedPlaces.limit < places ∧ takesPlaces v = true
  right : ofValue? places w = none ↔ FixedPlaces.limit < places ∧ takesPlaces w = true
  /-- Cells are equal if and only if the numbers are rounded to the same number. -/
  same (c d : Cell) (cell : ofValue? places v = some c) (cell' : ofValue? places w = some d) :
    c = d ↔ toPlaces places q = toPlaces places r
  /-- What is rounded to an integer of 64 bits becomes that integer, and nothing else does. -/
  integer (c : Cell) (n : ℤ) (cell : ofValue? places v = some c) :
    c = int n ↔ toPlaces places q = n ∧ isInt64 n
  integral (c : Cell) (n : ℤ) (cell : ofValue? places v = some c) (value : q = n)
    (inside : isInt64 n) : c = int n

/-- Numbers have one form for all types. -/
theorem ofValue?_canonical (places : ℕ) {v w : Value} {q r : ℚ} (left : v.Stands q)
    (right : w.Stands r) : Canonical places v w q r := by
  refine ⟨ofValue?_eq_none_iff places v, ofValue?_eq_none_iff places w, ?_, ?_, ?_⟩
  · intro c d cell cell'
    rw [ofValue_of_ofValue? cell, ofValue_of_ofValue? cell']
    exact left.ofValue_eq_iff right places
  · intro c n cell
    rw [ofValue_of_ofValue? cell]
    exact left.ofValue_eq_int_iff places n
  · rintro c n cell rfl inside
    rw [ofValue_of_ofValue? cell, left.ofValue_eq_int_iff]
    exact ⟨toPlaces_intCast places n, inside⟩

/-- A float below a half and a text of a half, without places. -/
theorem ofValue?_canonical_half :
    (Value.float (-0.5)).Stands (Binary64.toRat true (2 ^ 52) (-53)) ∧
      (Value.numeric " +0.5_0 ".toList).Stands (1 / 2) ∧
        Canonical 0 (.float (-0.5)) (.numeric " +0.5_0 ".toList)
          (Binary64.toRat true (2 ^ 52) (-53)) (1 / 2) := by
  have left : (Value.float (-0.5)).Stands (Binary64.toRat true (2 ^ 52) (-53)) :=
    .float (by decide +kernel)
  have right : (Value.numeric " +0.5_0 ".toList).Stands (1 / 2) := by
    have value : (⟨false, 50, 2⟩ : Decimal).value = 1 / 2 := by
      norm_num [Decimal.value, Rat.mkRat_eq_div]
    rw [← value]
    exact .of_exactPlain? (by decide +kernel) (by norm_num) (by norm_num)
  exact ⟨left, right, ofValue?_canonical 0 left right⟩

/-- A half as a float has no cell of 70000 places, and as a text it has one. -/
theorem ofValue?_half_eq_none :
    (Value.float 0.5).Stands (1 / 2) ∧ (Value.numeric "0.5".toList).Stands (1 / 2) ∧
      ofValue? 70000 (.float 0.5) = none ∧
        ofValue? 70000 (.numeric "0.5".toList) = some (.decimal "0.5".toList) := by
  have half : Binary64.toRat false (2 ^ 52) (-53) = 1 / 2 := by
    rw [Binary64.toRat_eq, signed]
    norm_num
  refine ⟨?_, ?_, by decide +kernel, by decide +kernel⟩
  · rw [← half]
    exact .float (by decide +kernel)
  · have value : (⟨false, 5, 1⟩ : Decimal).value = 1 / 2 := by
      norm_num [Decimal.value, Rat.mkRat_eq_div]
    rw [← value]
    exact .of_exactPlain? (by decide +kernel) (by norm_num) (by norm_num)

end Cell

end SqlGrader
