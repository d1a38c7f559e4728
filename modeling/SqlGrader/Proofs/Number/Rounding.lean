import Mathlib.Algebra.Order.Round
import Mathlib.Data.Rat.Floor
import Mathlib.Tactic.FieldSimp
import Mathlib.Tactic.Linarith
import SqlGrader.Number.FixedPlaces
/-!
# Rounding to decimal places

What it means that an integer is the nearest one to a rational number, of two equally
near ones the even one, and that all rounding of this library is rounding in this
sense: `roundTo` takes a decimal, and `ofBinary` a binary number, to the nearest
decimal with so many places. Taking zeros away keeps the value and leaves one form
of each value.
-/

namespace SqlGrader

/-- `n` is the nearest integer to `q`, and the even one from the middle. -/
structure IsNearest (q : ℚ) (n : ℤ) : Prop where
  close : |q - n| ≤ 1 / 2
  even : |q - n| = 1 / 2 → Even n

namespace IsNearest

variable {q : ℚ} {m n : ℤ}

theorem neg (h : IsNearest q n) : IsNearest (-q) (-n) := by
  have dist : |-q - ((-n : ℤ) : ℚ)| = |q - n| := by
    rw [Int.cast_neg, ← neg_sub', abs_neg]
  constructor
  · rw [dist]
    exact h.close
  · intro middle
    rw [dist] at middle
    exact (h.even middle).neg

/-- Of two nearest integers the second is not the greater one: both would be even, and next
to each other. -/
theorem le (hm : IsNearest q m) (hn : IsNearest q n) : n ≤ m := by
  by_contra! less
  have gap : (m : ℚ) + 1 ≤ n := by exact_mod_cast less
  obtain ⟨-, left⟩ := abs_le.mp hm.close
  obtain ⟨right, -⟩ := abs_le.mp hn.close
  have next : n = m + 1 := by
    have : (n : ℚ) = m + 1 := by linarith
    exact_mod_cast this
  have evenLeft : Even m := by
    apply hm.even
    rw [abs_of_nonneg] <;> linarith
  have evenRight : Even n := by
    apply hn.even
    rw [abs_of_nonpos] <;> linarith
  rw [next] at evenRight
  exact absurd evenLeft (Int.even_add_one.mp evenRight)

theorem unique (hm : IsNearest q m) (hn : IsNearest q n) : m = n :=
  le_antisymm (hn.le hm) (hm.le hn)

/-- An integer at less than half a unit is the nearest one. -/
theorem of_lt (h : |q - n| < 1 / 2) : IsNearest q n :=
  ⟨h.le, fun middle => absurd middle h.ne⟩

end IsNearest

/-- Rounds `n + r`, where `r` is what is left of a division. -/
def roundRest (n : ℤ) (r : ℚ) : ℤ :=
  if r < 1 / 2 then n else if 1 / 2 < r then n + 1 else if Even n then n else n + 1

theorem isNearest_roundRest (n : ℤ) {r : ℚ} (low : 0 ≤ r) (high : r < 1) :
    IsNearest (n + r) (roundRest n r) := by
  rw [roundRest]
  split_ifs with below above even
  · apply IsNearest.of_lt
    rwa [add_sub_cancel_left, abs_of_nonneg low]
  · apply IsNearest.of_lt
    push_cast
    rw [abs_of_neg] <;> linarith
  · have middle : r = 1 / 2 := le_antisymm (not_lt.mp above) (not_lt.mp below)
    refine ⟨?_, fun _ => even⟩
    rw [add_sub_cancel_left, middle, abs_of_pos one_half_pos]
  · refine ⟨?_, fun _ => Int.even_add_one.mpr even⟩
    push_cast
    rw [abs_of_neg] <;> linarith

/-- The nearest integer, from the middle the even one. -/
def roundEven (q : ℚ) : ℤ := roundRest ⌊q⌋ (q - ⌊q⌋)

theorem isNearest_roundEven (q : ℚ) : IsNearest q (roundEven q) := by
  have nearest := isNearest_roundRest ⌊q⌋ (Int.fract_nonneg q) (Int.fract_lt_one q)
  rwa [Int.floor_add_fract] at nearest

theorem roundEven_eq {q : ℚ} {n : ℤ} (h : IsNearest q n) : roundEven q = n :=
  (isNearest_roundEven q).unique h

theorem roundEven_intCast (n : ℤ) : roundEven n = n := by
  apply roundEven_eq
  apply IsNearest.of_lt
  simp

theorem roundEven_neg (q : ℚ) : roundEven (-q) = -roundEven q :=
  roundEven_eq (isNearest_roundEven q).neg

namespace Decimal

/-- The quotient of natural numbers is rounded by its rest. -/
theorem roundDiv_eq_roundRest (num : ℕ) {den : ℕ} (pos : 0 < den) :
    (roundDiv num den : ℤ) = roundRest (num / den : ℕ) ((num % den : ℕ) / den) := by
  have pos' : (0 : ℚ) < den := by exact_mod_cast pos
  have below : ((num % den : ℕ) / den : ℚ) < 1 / 2 ↔ 2 * (num % den) < den := by
    rw [div_lt_div_iff₀ pos' two_pos, one_mul, mul_comm]
    exact_mod_cast Iff.rfl
  have above : 1 / 2 < ((num % den : ℕ) / den : ℚ) ↔ den < 2 * (num % den) := by
    rw [div_lt_div_iff₀ two_pos pos', one_mul, mul_comm]
    exact_mod_cast Iff.rfl
  simp only [roundDiv, roundRest, below, above, Int.even_coe_nat, Nat.even_iff]
  split_ifs <;> rfl

/-- The quotient of natural numbers is rounded to the nearest one. -/
theorem roundDiv_eq (num : ℕ) {den : ℕ} (pos : 0 < den) :
    (roundDiv num den : ℤ) = roundEven (num / den) := by
  have pos' : (0 : ℚ) < den := by exact_mod_cast pos
  have split : (num / den : ℚ) = ((num / den : ℕ) : ℤ) + (num % den : ℕ) / den := by
    rw [Int.cast_natCast, eq_comm, ← mul_right_inj' pos'.ne', mul_add, mul_div_cancel₀ _ pos'.ne',
      mul_div_cancel₀ _ pos'.ne']
    exact_mod_cast Nat.div_add_mod num den
  have small : ((num % den : ℕ) / den : ℚ) < 1 := by
    rw [div_lt_one pos']
    exact_mod_cast Nat.mod_lt num pos
  rw [roundDiv_eq_roundRest num pos, eq_comm]
  apply roundEven_eq
  rw [split]
  exact isNearest_roundRest _ (by positivity) small

end Decimal

/-- Rounding to so many decimal places. -/
def toPlaces (places : ℕ) (q : ℚ) : ℚ := roundEven (q * 10 ^ places) / 10 ^ places

theorem toPlaces_neg (places : ℕ) (q : ℚ) : toPlaces places (-q) = -toPlaces places q := by
  rw [toPlaces, toPlaces, neg_mul, roundEven_neg, Int.cast_neg, neg_div]

/-- What has no more places is kept. -/
theorem toPlaces_eq_self {places : ℕ} {q : ℚ} {n : ℤ} (h : q * 10 ^ places = n) :
    toPlaces places q = q := by
  rw [toPlaces, h, roundEven_intCast, ← h, mul_div_cancel_right₀]
  positivity

theorem toPlaces_intCast (places : ℕ) (n : ℤ) : toPlaces places n = n := by
  apply toPlaces_eq_self (n := n * 10 ^ places)
  push_cast
  rfl

/-- A number after a sign. -/
def signed (negative : Bool) (q : ℚ) : ℚ := if negative then -q else q

theorem toPlaces_signed (places : ℕ) (negative : Bool) (q : ℚ) :
    toPlaces places (signed negative q) = signed negative (toPlaces places q) := by
  cases negative
  · rfl
  · exact toPlaces_neg places q

namespace Decimal

theorem value_eq (d : Decimal) : d.value = signed d.negative (d.units / 10 ^ d.places) := by
  cases d with
  | mk negative units places => cases negative <;> simp [value, signed, Rat.mkRat_eq_div, neg_div]

/-- The nearest number of units of the last place gives the nearest decimal. -/
theorem value_units {negative : Bool} {units places : ℕ} {q : ℚ}
    (nearest : (units : ℤ) = roundEven (q * 10 ^ places)) :
    (⟨negative, units, places⟩ : Decimal).value = toPlaces places (signed negative q) := by
  rw [value_eq, toPlaces_signed, toPlaces, ← nearest, Int.cast_natCast]

theorem value_roundTo (places : ℕ) (d : Decimal) :
    (d.roundTo places).value = toPlaces places d.value := by
  rw [value_eq d, roundTo]
  split_ifs with few
  · obtain ⟨more, rfl⟩ := Nat.exists_eq_add_of_le few
    have whole : (d.units / 10 ^ d.places * 10 ^ (d.places + more) : ℚ) =
        ((d.units * 10 ^ more : ℕ) : ℤ) := by
      push_cast
      rw [pow_add]
      field_simp
    rw [toPlaces_signed, toPlaces_eq_self whole, value_eq]
  · apply value_units
    obtain ⟨less, more⟩ := Nat.exists_eq_add_of_le (not_le.mp few).le
    rw [more, Nat.add_sub_cancel_left, Nat.pow_eq, roundDiv_eq _ (by positivity),
      pow_add]
    push_cast
    congr 1
    field_simp

end Decimal

namespace Binary64

theorem fraction_eq (mantissa : ℕ) (exponent : ℤ) :
    ((fraction mantissa exponent).1 / (fraction mantissa exponent).2 : ℚ) =
      mantissa * 2 ^ exponent := by
  cases exponent <;> simp [fraction, zpow_negSucc, div_eq_mul_inv]

theorem toRat_eq (negative : Bool) (mantissa : ℕ) (exponent : ℤ) :
    toRat negative mantissa exponent = signed negative (mantissa * 2 ^ exponent) := by
  rw [← fraction_eq]
  cases negative <;> simp [toRat, signed, Rat.mkRat_eq_div, neg_div]

theorem fraction_pos (mantissa : ℕ) (exponent : ℤ) : 0 < (fraction mantissa exponent).2 := by
  cases exponent <;> simp [fraction]

/-- No float has more than 1074 binary places. -/
theorem least_of_ofBits {bits : ℕ} {negative : Bool} {mantissa : ℕ} {exponent : ℤ}
    (h : ofBits bits = .finite negative mantissa exponent) : -1074 ≤ exponent := by
  simp only [ofBits] at h
  split_ifs at h <;> grind

end Binary64

/-- A binary number with no more than 1074 binary places has no more decimal places. -/
theorem toPlaces_toRat {places : ℕ} (many : 1074 ≤ places) (negative : Bool) (mantissa : ℕ)
    {exponent : ℤ} (least : -1074 ≤ exponent) :
    toPlaces places (Binary64.toRat negative mantissa exponent) =
      Binary64.toRat negative mantissa exponent := by
  obtain ⟨twos, sum⟩ := Int.eq_ofNat_of_zero_le (a := exponent + places) (by omega)
  have whole : (mantissa * 2 ^ exponent * 10 ^ places : ℚ) =
      ((mantissa * 2 ^ twos * 5 ^ places : ℕ) : ℤ) := by
    push_cast
    rw [← zpow_natCast 2 twos, ← sum, zpow_add₀ two_ne_zero, zpow_natCast,
      show (10 : ℚ) = 2 * 5 by norm_num, mul_pow]
    ring
  rw [Binary64.toRat_eq, toPlaces_signed, toPlaces_eq_self whole]

namespace Decimal

/-- A binary number as the nearest number of units of the last place. -/
theorem value_roundFraction (places : ℕ) (negative : Bool) (mantissa : ℕ) (exponent : ℤ) :
    (⟨negative, roundDiv ((Binary64.fraction mantissa exponent).1 * 10 ^ places)
      (Binary64.fraction mantissa exponent).2, places⟩ : Decimal).value =
        toPlaces places (Binary64.toRat negative mantissa exponent) := by
  rw [Binary64.toRat_eq, ← Binary64.fraction_eq]
  apply value_units
  rw [roundDiv_eq _ (Binary64.fraction_pos mantissa exponent)]
  push_cast
  rw [mul_div_right_comm]

/-- The decimal of a binary number with no more than 1074 binary places. -/
theorem value_ofBinary (places : ℕ) (negative : Bool) (mantissa : ℕ) {exponent : ℤ}
    (least : -1074 ≤ exponent) :
    (ofBinary places negative mantissa exponent).value =
      toPlaces places (Binary64.toRat negative mantissa exponent) := by
  rw [ofBinary, Nat.pow_eq, value_roundFraction]
  rcases le_total places 1074 with few | many
  · rw [min_eq_left few]
  · rw [min_eq_right many, toPlaces_toRat le_rfl _ _ least, toPlaces_toRat many _ _ least]

theorem value_stripPlaces (units places : ℕ) :
    ((stripPlaces units places).1 / 10 ^ (stripPlaces units places).2 : ℚ) =
      units / 10 ^ places := by
  induction places generalizing units with
  | zero => rfl
  | succ places ih =>
    rw [stripPlaces]
    split_ifs with zero
    · have tenth : (units : ℚ) = (units / 10 : ℕ) * 10 := by
        exact_mod_cast (Nat.div_mul_cancel (Nat.dvd_of_mod_eq_zero zero)).symm
      rw [ih, tenth, pow_succ, mul_div_mul_right _ _ (by norm_num)]
    · rfl

theorem value_strip (d : Decimal) : d.strip.value = d.value := by
  rw [value_eq, value_eq d]
  exact congrArg (signed d.negative) (value_stripPlaces d.units d.places)

/-- No place is needless. -/
def IsStripped (d : Decimal) : Prop := d.places = 0 ∨ d.units % 10 ≠ 0

theorem isStripped_strip (d : Decimal) : d.strip.IsStripped := by
  suffices h : ∀ units places, (stripPlaces units places).2 = 0 ∨
      (stripPlaces units places).1 % 10 ≠ 0 from h d.units d.places
  intro units places
  induction places generalizing units with
  | zero => exact .inl rfl
  | succ places ih =>
    rw [stripPlaces]
    split_ifs with zero
    · exact ih _
    · exact .inr zero

namespace IsStripped

variable {d e : Decimal}

/-- Of two stripped decimals of one magnitude neither has more places. -/
theorem places_le (hd : d.IsStripped)
    (same : (d.units / 10 ^ d.places : ℚ) = e.units / 10 ^ e.places) : d.places ≤ e.places := by
  by_contra! more
  obtain ⟨extra, more⟩ := Nat.exists_eq_add_of_lt more
  have units : d.units = e.units * 10 ^ extra * 10 := by
    rw [more] at same
    have : (d.units : ℚ) = e.units * 10 ^ extra * 10 := by
      rw [pow_succ, pow_add] at same
      field_simp at same
      linarith
    exact_mod_cast this
  have zero : d.units % 10 ≠ 0 := hd.resolve_left (by omega)
  exact zero (by rw [units, Nat.mul_mod_left])

theorem eq_of_magnitude (hd : d.IsStripped) (he : e.IsStripped)
    (same : (d.units / 10 ^ d.places : ℚ) = e.units / 10 ^ e.places) :
    d.units = e.units ∧ d.places = e.places := by
  have places : d.places = e.places := le_antisymm (hd.places_le same) (he.places_le same.symm)
  rw [places, div_left_inj' (by positivity)] at same
  exact ⟨by exact_mod_cast same, places⟩

end IsStripped

end Decimal

end SqlGrader
