import Mathlib.Algebra.Order.Archimedean.Basic
import Mathlib.Algebra.Order.Field.Power
import SqlGrader.Proofs.Data.NumberForms
/-!
# Decimals that are kept as floats

The nearest float to a decimal of few digits is so near that rounding it to the places
of the decimal gives the decimal again. So such a decimal has one cell, as a float and
as a text.
-/

namespace SqlGrader

namespace Binary64

/-- Each pattern of 64 bits is a float, if its exponent field is not all ones. -/
theorem exists_float_of_bits {bits : ℕ} (small : bits < 2 ^ 64)
    (finite : bits / 2 ^ 52 % 2 ^ 11 < 2047) : ∃ y : Float, ofFloat y = ofBits bits := by
  have toNat : (UInt64.ofNat bits).toNat = bits := UInt64.toNat_ofNat_of_lt' small
  have valid : Float.Model.Format.binary64.Valid (UInt64.ofNat bits).toBitVec := by
    constructor
    intro ones
    have field := congrArg BitVec.toNat ones
    simp only [Float.Model.UnpackedFloat.unpackExponent, BitVec.toNat_cast,
      BitVec.extractLsb_toNat, UInt64.toNat_toBitVec, toNat, Nat.shiftRight_eq_div_pow] at field
    exact absurd field finite.ne
  exact ⟨.ofModel ⟨UInt64.ofNat bits, valid⟩, congrArg ofBits toNat⟩

/-- A finite float for each normal mantissa and exponent. -/
theorem exists_float (negative : Bool) {mantissa : ℕ} {exponent : ℤ} (low : 2 ^ 52 ≤ mantissa)
    (high : mantissa < 2 ^ 53) (least : -1074 ≤ exponent) (most : exponent ≤ 971) :
    ∃ y : Float, ofFloat y = .finite negative mantissa exponent := by
  obtain ⟨biased, biasedIs⟩ := Int.eq_ofNat_of_zero_le (a := exponent + 1075) (by omega)
  have bit : negative.toNat ≤ 1 := negative.toNat_le
  obtain ⟨bits, bitsAre⟩ : ∃ bits, bits =
      negative.toNat * 2 ^ 63 + biased * 2 ^ 52 + (mantissa - 2 ^ 52) := ⟨_, rfl⟩
  have sign : bits / 2 ^ 63 % 2 = negative.toNat := by omega
  have exponentField : bits / 2 ^ 52 % 2 ^ 11 = biased := by omega
  have fractionField : bits % 2 ^ 52 = mantissa - 2 ^ 52 := by omega
  have small : bits < 2 ^ 64 := by omega
  obtain ⟨y, read⟩ := exists_float_of_bits small (by omega)
  refine ⟨y, read.trans ?_⟩
  have signIs : (negative.toNat == 1) = negative := by cases negative <;> rfl
  have mantissaIs : 2 ^ 52 + (mantissa - 2 ^ 52) = mantissa := by omega
  have exponentIs : (biased : ℤ) - 1075 = exponent := by omega
  simp only [ofBits, Nat.pow_eq, sign, exponentField, fractionField]
  rw [if_neg (by omega), if_neg (by omega), signIs, mantissaIs, exponentIs]

theorem mantissa_lt_of_ofBits {bits : ℕ} {negative : Bool} {mantissa : ℕ} {exponent : ℤ}
    (h : ofBits bits = .finite negative mantissa exponent) : mantissa < 2 ^ 53 := by
  have fraction : bits % 2 ^ 52 < 2 ^ 52 := Nat.mod_lt _ (by norm_num)
  simp only [ofBits, Nat.pow_eq] at h
  split_ifs at h
  all_goals
    cases h
    omega

end Binary64

/-- No finite float is nearer to `s` than `x`, which is the number `q`. -/
structure NearestFloat (x : Float) (q s : ℚ) : Prop where
  stands : (Value.float x).Stands q
  nearest (y : Float) (r : ℚ) (other : (Value.float y).Stands r) : |q - s| ≤ |r - s|

/-- A number between two powers of two is cut to a mantissa of 53 bits. -/
theorem exists_mantissa {a : ℚ} {j : ℤ} (low : 2 ^ j ≤ a) (high : a < 2 ^ (j + 1)) :
    ∃ mantissa : ℕ, 2 ^ 52 ≤ mantissa ∧ mantissa < 2 ^ 53 ∧
      |mantissa * 2 ^ (j - 52) - a| ≤ a / 2 ^ 52 := by
  have scale (k : ℕ) : (2 : ℚ) ^ (j - 52 + k) = 2 ^ k * 2 ^ (j - 52) := by
    rw [zpow_add₀ two_ne_zero, zpow_natCast, mul_comm]
  have first : (2 : ℚ) ^ j = 2 ^ 52 * 2 ^ (j - 52) := by
    rw [← scale 52]
    congr 1
    push_cast
    ring
  have last : (2 : ℚ) ^ (j + 1) = 2 ^ 53 * 2 ^ (j - 52) := by
    rw [← scale 53]
    congr 1
    push_cast
    ring
  have unit : (0 : ℚ) < 2 ^ (j - 52) := zpow_pos two_pos _
  generalize (2 : ℚ) ^ (j - 52) = u at *
  rw [first] at low
  rw [last] at high
  have least : 2 ^ 52 ≤ a / u := (le_div_iff₀ unit).mpr low
  have most : a / u < 2 ^ 53 := (div_lt_iff₀ unit).mpr high
  have below : ⌊a / u⌋₊ * u ≤ a := (le_div_iff₀ unit).mp (Nat.floor_le (by positivity))
  have above : a < (⌊a / u⌋₊ + 1) * u := (div_lt_iff₀ unit).mp (Nat.lt_floor_add_one _)
  refine ⟨⌊a / u⌋₊, ?_, ?_, ?_⟩
  · apply Nat.le_floor
    exact_mod_cast least
  · apply (Nat.floor_lt' (by norm_num)).mpr
    exact_mod_cast most
  · rw [abs_of_nonpos (by linarith), le_div_iff₀ (by norm_num)]
    linarith

/-- A number in the range of the normal floats has a float near it. -/
theorem exists_near_float {s : ℚ} (low : 2 ^ (-1022 : ℤ) ≤ |s|) (high : |s| < 2 ^ (1023 : ℤ)) :
    ∃ (y : Float) (r : ℚ), (Value.float y).Stands r ∧ |r - s| ≤ |s| / 2 ^ 52 := by
  have pos : 0 < |s| := lt_of_lt_of_le (zpow_pos two_pos _) low
  obtain ⟨j, lower, upper⟩ := exists_mem_Ico_zpow pos one_lt_two
  have least : -1022 < j + 1 :=
    (zpow_lt_zpow_iff_right₀ one_lt_two).mp (lt_of_le_of_lt low upper)
  have most : j < 1023 := (zpow_lt_zpow_iff_right₀ one_lt_two).mp (lt_of_le_of_lt lower high)
  obtain ⟨mantissa, normal, short, near⟩ := exists_mantissa lower upper
  obtain ⟨y, finite⟩ : ∃ y, Binary64.ofFloat y = .finite (decide (s < 0)) mantissa (j - 52) :=
    Binary64.exists_float _ normal short (by omega) (by omega)
  refine ⟨y, _, .float finite, ?_⟩
  rw [Binary64.toRat_eq]
  rcases lt_or_ge s 0 with negative | nonneg
  · rw [abs_of_neg negative] at near ⊢
    have reflected : -(mantissa * 2 ^ (j - 52)) - s = -(mantissa * 2 ^ (j - 52) - -s) := by ring
    rwa [decide_eq_true negative, signed, if_pos rfl, reflected, abs_neg]
  · rw [abs_of_nonneg nonneg] at near ⊢
    rwa [decide_eq_false (not_lt.mpr nonneg), signed, if_neg (by decide)]

namespace NearestFloat

variable {x : Float} {q s : ℚ}

/-- Zero is a float. -/
theorem eq_zero (h : NearestFloat x q 0) : q = 0 := by
  have zero : (Value.float 0).Stands 0 := by
    have value : Binary64.toRat false 0 (-1074) = 0 := by rw [Binary64.toRat_eq]; simp [signed]
    rw [← value]
    exact .float (by decide +kernel)
  have close := h.nearest 0 0 zero
  rwa [sub_self, abs_zero, abs_nonpos_iff, sub_zero] at close

/-- In the range of the normal floats the error is small relative to the number. -/
theorem close (h : NearestFloat x q s) (low : 2 ^ (-1022 : ℤ) ≤ |s|)
    (high : |s| < 2 ^ (1023 : ℤ)) : |q - s| ≤ |s| / 2 ^ 52 := by
  obtain ⟨y, r, stands, near⟩ := exists_near_float low high
  exact (h.nearest y r stands).trans near

end NearestFloat

/-- A decimal of few digits as so many units of its last place. -/
def fewDigits (k : ℤ) (places : ℕ) : ℚ := k / 10 ^ places

theorem abs_fewDigits (k : ℤ) (places : ℕ) : |fewDigits k places| = |(k : ℚ)| / 10 ^ places := by
  rw [fewDigits, abs_div, abs_of_pos (by positivity : (0 : ℚ) < 10 ^ places)]

theorem toPlaces_fewDigits (k : ℤ) (places : ℕ) :
    toPlaces places (fewDigits k places) = fewDigits k places :=
  toPlaces_eq_self (div_mul_cancel₀ _ (by positivity))

/-- What is that near to a decimal of fifteen digits is rounded to it. -/
theorem toPlaces_eq_fewDigits {places : ℕ} {k : ℤ} {q : ℚ} (small : |k| ≤ 10 ^ 15)
    (close : |q - fewDigits k places| ≤ |fewDigits k places| / 2 ^ 52) :
    toPlaces places q = fewDigits k places := by
  have scale : (0 : ℚ) < 10 ^ places := by positivity
  have small' : |(k : ℚ)| ≤ 10 ^ 15 := by exact_mod_cast small
  have error : |q * 10 ^ places - k| ≤ |(k : ℚ)| / 2 ^ 52 := by
    have scaled : q * 10 ^ places - k = (q - fewDigits k places) * 10 ^ places := by
      rw [sub_mul, fewDigits, div_mul_cancel₀ _ scale.ne']
    rw [scaled, abs_mul, abs_of_pos scale, ← le_div_iff₀ scale, div_right_comm, ← abs_fewDigits]
    exact close
  have nearest : IsNearest (q * 10 ^ places) k := by
    apply IsNearest.of_lt
    calc |q * 10 ^ places - k| ≤ |(k : ℚ)| / 2 ^ 52 := error
      _ ≤ 10 ^ 15 / 2 ^ 52 := by gcongr
      _ < 1 / 2 := by norm_num
  rw [toPlaces, roundEven_eq nearest, fewDigits]

/-- The nearest float to a decimal of at most 28 places and 15 digits is rounded to it. -/
theorem NearestFloat.toPlaces_eq {places : ℕ} {k : ℤ} {x : Float} {q : ℚ}
    (h : NearestFloat x q (fewDigits k places)) (few : places ≤ 28) (small : |k| ≤ 10 ^ 15) :
    toPlaces places q = fewDigits k places := by
  by_cases zero : k = 0
  · have nothing : fewDigits k places = 0 := by rw [fewDigits, zero, Int.cast_zero, zero_div]
    rw [nothing] at h ⊢
    rw [h.eq_zero]
    exact_mod_cast toPlaces_intCast places 0
  · have one : (1 : ℚ) ≤ |(k : ℚ)| := by exact_mod_cast Int.one_le_abs zero
    have small' : |(k : ℚ)| ≤ 10 ^ 15 := by exact_mod_cast small
    have scale : (0 : ℚ) < 10 ^ places := by positivity
    apply toPlaces_eq_fewDigits small
    apply h.close
    · rw [abs_fewDigits]
      calc (2 : ℚ) ^ (-1022 : ℤ) ≤ 2 ^ (-100 : ℤ) :=
            zpow_le_zpow_right₀ one_le_two (by norm_num)
        _ ≤ 1 / 10 ^ 28 := by norm_num
        _ ≤ 1 / 10 ^ places := by gcongr; norm_num
        _ ≤ |(k : ℚ)| / 10 ^ places := by gcongr
    · rw [abs_fewDigits]
      calc |(k : ℚ)| / 10 ^ places ≤ 10 ^ 15 / 1 := by
            gcongr
            exact one_le_pow₀ (by norm_num)
        _ < 2 ^ (100 : ℤ) := by norm_num
        _ ≤ 2 ^ (1023 : ℤ) := zpow_le_zpow_right₀ one_le_two (by norm_num)

theorem signed_le {negative : Bool} {a : ℚ} (nonneg : 0 ≤ a) : signed negative a ≤ a := by
  cases negative
  · exact le_rfl
  · exact neg_le_self nonneg

/-- A float other than a normal one is at least a unit of the last place of that one away from it,
if the normal one is not the least of its binade. -/
theorem unit_le_distance {mantissa mantissa' : ℕ} {exponent exponent' : ℤ}
    (normal : 2 ^ 52 < mantissa) (short : mantissa' < 2 ^ 53) (negative : Bool)
    (other : signed negative (mantissa' * 2 ^ exponent') ≠ mantissa * 2 ^ exponent) :
    (2 : ℚ) ^ exponent ≤
      |signed negative (mantissa' * 2 ^ exponent') - mantissa * 2 ^ exponent| := by
  have unit : (0 : ℚ) < 2 ^ exponent := zpow_pos two_pos _
  rcases le_or_gt exponent exponent' with coarse | fine
  · -- Both are whole numbers of units, and not the same one.
    obtain ⟨more, sum⟩ := Int.eq_ofNat_of_zero_le (sub_nonneg.mpr coarse)
    have power : (2 : ℚ) ^ exponent' = 2 ^ more * 2 ^ exponent := by
      rw [← zpow_natCast, ← sum, ← zpow_add₀ two_ne_zero, sub_add_cancel]
    obtain ⟨n, whole⟩ : ∃ n : ℤ,
        signed negative (mantissa' * 2 ^ exponent') = n * 2 ^ exponent := by
      refine ⟨if negative then -(mantissa' * 2 ^ more) else mantissa' * 2 ^ more, ?_⟩
      cases negative <;> simp [signed, power, mul_assoc]
    rw [whole] at other ⊢
    have apart : n - mantissa ≠ 0 := by
      intro same
      apply other
      rw [sub_eq_zero.mp same]
      push_cast
      rfl
    have one : (1 : ℚ) ≤ |(n - mantissa : ℚ)| := by exact_mod_cast Int.one_le_abs apart
    rw [← sub_mul, abs_mul, abs_of_pos unit]
    exact le_mul_of_one_le_left unit.le one
  · -- The other one is below the numbers of this binade.
    have half : (2 : ℚ) ^ exponent' * 2 ≤ 2 ^ exponent := by
      rw [← zpow_add_one₀ two_ne_zero]
      exact zpow_le_zpow_right₀ one_le_two fine
    have below : (mantissa' : ℚ) * 2 ^ exponent' ≤ 2 ^ 52 * 2 ^ exponent := by
      have short' : (mantissa' : ℚ) ≤ 2 ^ 52 * 2 := by exact_mod_cast short.le
      calc (mantissa' : ℚ) * 2 ^ exponent' ≤ 2 ^ 52 * 2 * 2 ^ exponent' := by gcongr
        _ = 2 ^ 52 * (2 ^ exponent' * 2) := by ring
        _ ≤ 2 ^ 52 * 2 ^ exponent := by gcongr
    have above : (2 ^ 52 + 1) * (2 : ℚ) ^ exponent ≤ mantissa * 2 ^ exponent := by
      have normal' : (2 ^ 52 + 1 : ℚ) ≤ mantissa := by exact_mod_cast normal
      gcongr
    have upper : signed negative (mantissa' * 2 ^ exponent') ≤ mantissa' * 2 ^ exponent' :=
      signed_le (by positivity)
    rw [abs_sub_comm]
    refine le_trans ?_ (le_abs_self _)
    linarith

/-- A float at no more than half a unit of its last place is the nearest one. -/
theorem nearestFloat_of_half {x : Float} {mantissa : ℕ} {exponent : ℤ} {s : ℚ}
    (finite : Binary64.ofFloat x = .finite false mantissa exponent) (normal : 2 ^ 52 < mantissa)
    (close : |mantissa * 2 ^ exponent - s| ≤ 2 ^ exponent / 2) :
    NearestFloat x (Binary64.toRat false mantissa exponent) s := by
  refine ⟨.float finite, ?_⟩
  rintro y _ (_ | @⟨_, negative, mantissa', exponent', finite'⟩)
  have short := Binary64.mantissa_lt_of_ofBits finite'
  have value : Binary64.toRat false mantissa exponent = mantissa * 2 ^ exponent :=
    Binary64.toRat_eq false mantissa exponent
  rw [value, Binary64.toRat_eq]
  by_cases same : signed negative (mantissa' * 2 ^ exponent') = mantissa * 2 ^ exponent
  · rw [same]
  · have far := unit_le_distance normal short negative same
    have detour := abs_sub_le (signed negative (mantissa' * 2 ^ exponent')) s
      (mantissa * 2 ^ exponent)
    rw [abs_sub_comm s] at detour
    linarith

namespace Cell

/-- A decimal of at most 28 places and 15 digits has one cell, as the nearest float to it and as any
text that is read without loss, however it is written. -/
theorem ofValue?_nearestFloat {places : ℕ} (few : places ≤ 28) {k : ℤ} (small : |k| ≤ 10 ^ 15)
    {x : Float} {q : ℚ} (nearest : NearestFloat x q (fewDigits k places)) :
    ∃ c, ofValue? places (.float x) = some c ∧
      (∀ t, (Value.numeric t).Stands (fewDigits k places) →
        ofValue? places (.numeric t) = some c) ∧
      ∀ d : Decimal, d.value = fewDigits k places → d.units < 2 ^ 96 → d.places ≤ 28 →
        ofValue? places (.numeric d.text) = some c := by
  have inRange : places ≤ FixedPlaces.limit := few.trans (by decide)
  have cell (v : Value) : ofValue? places v = some (ofValue places v) := by
    rw [ofValue?_eq, decide_eq_true inRange]
    rfl
  have texts (t : Text) (stands : (Value.numeric t).Stands (fewDigits k places)) :
      ofValue? places (.numeric t) = some (ofValue places (.float x)) := by
    have same := (stands.ofValue_eq_iff nearest.stands places).mpr
      ((toPlaces_fewDigits k places).trans (nearest.toPlaces_eq few small).symm)
    rw [cell, same]
  refine ⟨_, cell _, texts, ?_⟩
  intro d value fits short
  apply texts
  rw [← value]
  apply Value.Stands.of_exactPlain? _ fits short
  rw [Decimal.trim_text]
  exact NumericText.exactPlain?_text d

/-- A tenth, whose nearest float is a little greater. -/
theorem ofValue?_nearestFloat_tenth :
    2 ≤ 28 ∧ |(10 : ℤ)| ≤ 10 ^ 15 ∧
      NearestFloat 0.1 (Binary64.toRat false 7205759403792794 (-56)) (fewDigits 10 2) ∧
        ∃ c, ofValue? 2 (.float 0.1) = some c ∧
          (∀ t, (Value.numeric t).Stands (fewDigits 10 2) → ofValue? 2 (.numeric t) = some c) ∧
          ∀ d : Decimal, d.value = fewDigits 10 2 → d.units < 2 ^ 96 → d.places ≤ 28 →
            ofValue? 2 (.numeric d.text) = some c := by
  have nearest :
      NearestFloat 0.1 (Binary64.toRat false 7205759403792794 (-56)) (fewDigits 10 2) := by
    apply nearestFloat_of_half (by decide +kernel) (by norm_num)
    rw [fewDigits, abs_of_pos] <;> norm_num
  exact ⟨by norm_num, by norm_num, nearest,
    ofValue?_nearestFloat (by norm_num) (by norm_num) nearest⟩

end Cell

end SqlGrader
