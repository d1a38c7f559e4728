import Mathlib
/-!
# Counts in floating point

A natural number below `2 ^ 53` is a float: its digits fill a mantissa of 53 bits, with zeros behind
them. Such a number is rounded to itself, however many more zeros stand behind it, and it is found
again in the word that it is packed into. So counting up by one is exact in floating point, and a
count by itself is one.
-/

namespace SqlGrader.Count

open Float.Model UnpackedFloat

/-! ### Mantissas with zeros at their end -/

theorem log2_mul_two_pow {m : ℕ} (some : m ≠ 0) (j : ℕ) : (m * 2 ^ j).log2 = m.log2 + j := by
  induction j with
  | zero => rw [Nat.pow_zero, Nat.mul_one, Nat.add_zero]
  | succ j ih =>
      have double : m * 2 ^ (j + 1) = 2 * (m * 2 ^ j) := by ring
      have power : 2 ^ j ≠ 0 := (Nat.two_pow_pos j).ne'
      rw [double, Nat.log2_two_mul (Nat.mul_ne_zero some power), ih, Nat.add_assoc]

/-- Zeros are shifted out without a trace. -/
theorem shiftRight_exact (m j : ℕ) :
    ExtendedMantissa.mk (m * 2 ^ j) false false >>> j = ⟨m, false, false⟩ := by
  induction j generalizing m with
  | zero =>
      rw [Nat.pow_zero, Nat.mul_one]
      rfl
  | succ j ih =>
      have split : m * 2 ^ (j + 1) = m * 2 * 2 ^ j := by ring
      show (ExtendedMantissa.mk (m * 2 ^ (j + 1)) false false >>> j).shiftRightOne = _
      rw [split, ih]
      simp [ExtendedMantissa.shiftRightOne]

variable {m : ℕ} {e : ℤ}

theorem shiftToTargetExponent_exact (normal : m.log2 = 52) (least : -1074 ≤ e) (j : ℕ) :
    shiftToTargetExponent Format.binary64 (m * 2 ^ j) (e - j) .exact = (⟨m, false, false⟩, e) := by
  have some : m ≠ 0 := by
    rintro rfl
    cases normal
  have target : Format.binary64.targetExponent (totalExponent (m * 2 ^ j) (e - j)) = e := by
    simp only [Format.targetExponent, totalExponent, log2_mul_two_pow some, normal,
      Format.mantissaBits, Format.minExponent]
    omega
  have shift : (e - (e - j)).toNat = j := by omega
  have sum : e - j + j = e := by omega
  simp only [shiftToTargetExponent, shiftToExponent, target, shift, sum,
    ExtendedMantissa.ofMantissaAndAccuracy, shiftRight_exact]

/-- A mantissa of 53 bits is rounded to itself. -/
theorem roundWithAccuracy_exact (normal : m.log2 = 52) (least : -1074 ≤ e) (j : ℕ) (pos : 0 < m) :
    roundWithAccuracy Format.binary64 .positive (m * 2 ^ j) (e - j) .exact =
      .finite .positive m e pos := by
  -- Rounding shifts twice; the second time there is nothing left to be shifted.
  have again := shiftToTargetExponent_exact normal least 0
  rw [Nat.pow_zero, Nat.mul_one, Nat.cast_zero, Int.sub_zero] at again
  have rounded : (⟨m, false, false⟩ : ExtendedMantissa).roundedMantissa = m := rfl
  simp only [roundWithAccuracy, shiftToTargetExponent_exact normal least j, rounded, again]
  exact dif_neg pos.ne'

/-! ### Packing -/

/-- The leading bit is not stored, and it is put back. -/
theorem toNat_append_ofNat (low : 2 ^ 52 ≤ m) (high : m < 2 ^ 53) :
    (1#1 ++ BitVec.ofNat 52 m).toNat = m := by
  rw [BitVec.toNat_append, ← Nat.shiftLeft_add_eq_or_of_lt (BitVec.isLt _), BitVec.toNat_ofNat]
  show 2 ^ 52 + m % 2 ^ 52 = m
  omega

/-- A mantissa of 53 bits is found again in the word that it is packed into. -/
theorem unpack_pack_exact (normal : m.log2 = 52) (least : -1074 ≤ e) (most : e ≤ 971)
    (pos : 0 < m) :
    (Float.Model.pack (.finite .positive m e pos)).unpack = .finite .positive m e pos := by
  obtain ⟨biased, biasedIs⟩ := Int.eq_ofNat_of_zero_le (a := e + 1075) (by omega)
  obtain ⟨low, high⟩ := (Nat.log2_eq_iff pos.ne').1 normal
  have exponent : (e + Format.binary64.exponentBias +
      Format.binary64.mantissaBitsWithoutImplicit).toNat = biased := by
    simp only [Format.exponentBias]
    omega
  have back : (biased : ℤ) - (Format.binary64.exponentBias +
      Format.binary64.mantissaBitsWithoutImplicit) = e := by
    simp only [Format.exponentBias]
    omega
  have packed : UnpackedFloat.pack Format.binary64 (.finite .positive m e pos) =
      packComponents Format.binary64 .positive (BitVec.ofNat 11 biased) (BitVec.ofNat 52 m) := by
    simp only [UnpackedFloat.pack, exponent, normal, Format.mantissaBits]
    rw [if_neg (by omega), if_pos trivial]
  -- The exponent is neither that of infinity nor that of zero.
  have field : (BitVec.ofNat 11 biased).toNat = biased := by
    rw [BitVec.toNat_ofNat, Nat.mod_eq_of_lt (by omega)]
  have noOnes : BitVec.ofNat 11 biased ≠ -1#11 := by
    intro same
    have ones : biased = 2047 := field.symm.trans (congrArg BitVec.toNat same)
    omega
  have noZero : BitVec.ofNat 11 biased ≠ 0#11 := by
    intro same
    have zero : biased = 0 := field.symm.trans (congrArg BitVec.toNat same)
    omega
  show UnpackedFloat.unpack Format.binary64 (UnpackedFloat.pack Format.binary64 _) = _
  rw [packed]
  simp only [UnpackedFloat.unpack, unpackMantissa_packComponents, unpackExponent_packComponents,
    unpackSign_packComponents, noOnes, noZero, if_false, field, toNat_append_ofNat low high, back]
  rfl

/-! ### Counts -/

variable {n : ℕ}

/-- A positive count below `2 ^ 53` as a mantissa of 53 bits. -/
def unpacked (n : ℕ) (pos : 0 < n) : UnpackedFloat :=
  .finite .positive (n * 2 ^ (52 - n.log2)) (n.log2 - 52) (Nat.mul_pos pos (Nat.two_pow_pos _))

theorem log2_lt (pos : 0 < n) (small : n < 2 ^ 53) : n.log2 < 53 := (Nat.log2_lt pos.ne').2 small

theorem unpack_pack_unpacked (pos : 0 < n) (small : n < 2 ^ 53) :
    (Float.Model.pack (unpacked n pos)).unpack = unpacked n pos := by
  have bits := log2_lt pos small
  refine unpack_pack_exact ?_ (by omega) (by omega) _
  rw [log2_mul_two_pow pos.ne']
  omega

/-- A count is rounded to itself, however many zeros stand behind its digits. -/
theorem roundWithAccuracy_count {j : ℕ} (pos : 0 < n) (small : n < 2 ^ 53)
    (room : 52 - n.log2 ≤ j) :
    roundWithAccuracy Format.binary64 .positive (n * 2 ^ j) (-j) .exact = unpacked n pos := by
  have bits := log2_lt pos small
  have normal : (n * 2 ^ (52 - n.log2)).log2 = 52 := by
    rw [log2_mul_two_pow pos.ne']
    omega
  have rounded := roundWithAccuracy_exact (e := n.log2 - 52) normal (by omega)
    (j - (52 - n.log2)) (Nat.mul_pos pos (Nat.two_pow_pos _))
  have zeros : 52 - n.log2 + (j - (52 - n.log2)) = j := by omega
  have exponent : (n.log2 : ℤ) - 52 - (j - (52 - n.log2) : ℕ) = -j := by omega
  rwa [Nat.mul_assoc, ← Nat.pow_add, zeros, exponent] at rounded

/-- So it is with fewer zeros, which are put there first. -/
theorem normalize_count (pos : 0 < n) (small : n < 2 ^ 53) (j : ℕ) :
    UnpackedFloat.normalize Format.binary64 (n * 2 ^ j : ℕ) (-j) .positive = unpacked n pos := by
  have bits := log2_lt pos small
  have positive : compare ((n * 2 ^ j : ℕ) : ℤ) 0 = .gt :=
    Int.compare_eq_gt.2 (Int.natCast_pos.2 (Nat.mul_pos pos (Nat.two_pow_pos j)))
  have target : Format.binary64.targetExponent (totalExponent (n * 2 ^ j) (-j)) = n.log2 - 52 := by
    simp only [Format.targetExponent, totalExponent, log2_mul_two_pow pos.ne',
      Format.mantissaBits, Format.minExponent]
    omega
  obtain ⟨shift, shiftIs⟩ : ∃ shift, shift = (-(j : ℤ) - (n.log2 - 52)).toNat := ⟨_, rfl⟩
  have exponent : -(j : ℤ) - shift = -(j + shift : ℕ) := by omega
  have rounded := roundWithAccuracy_count pos small (j := j + shift) (by omega)
  simp only [UnpackedFloat.normalize, positive, UnpackedFloat.round, Int.toNat_natCast, target,
    decreaseExponent, ← shiftIs, Nat.shiftLeft_eq, exponent]
  rwa [Nat.mul_assoc, ← Nat.pow_add]

theorem mul_eq (x y : Float) : x * y =
    .ofModel (.pack (UnpackedFloat.mul Format.binary64 x.toModel.unpack y.toModel.unpack)) := rfl

/-- The float of a count. It is made from a word of 64 bits by a multiplication with one. -/
theorem ofNat_eq (pos : 0 < n) (small : n < 2 ^ 53) :
    Float.ofNat n = .ofModel (.pack (unpacked n pos)) := by
  have bits := log2_lt pos small
  have word : n.toUInt64.toNat = n := UInt64.toNat_ofNat_of_lt' (Nat.lt_trans small (by decide))
  have plain : UnpackedFloat.normalize Format.binary64 n 0 .positive = unpacked n pos := by
    simpa using normalize_count pos small 0
  have read : n.toUInt64.toFloat = .ofModel (.pack (unpacked n pos)) := by
    rw [UInt64.toFloat, Float.Model.ofUInt64, UnpackedFloat.ofUInt64, UnpackedFloat.ofNat,
      UnpackedFloat.ofInt, word, plain]
  have product : Float.ofNat n = n.toUInt64.toFloat * Float.ofBits 0x3FF0000000000000 := by
    show Float.ofScientific n false 0 = _
    rw [Float.ofScientific, dif_pos ⟨small, by decide⟩]
    rfl
  have one : (Float.ofBits 0x3FF0000000000000).toModel.unpack =
      .finite .positive (2 ^ 52) (-52) (by decide) := by rfl
  have exponent : (n.log2 : ℤ) - 52 + -52 = -(52 - n.log2 + 52 : ℕ) := by omega
  have rounded := roundWithAccuracy_count pos small (j := 52 - n.log2 + 52) (by omega)
  rw [Nat.pow_add, ← Nat.mul_assoc, ← exponent] at rounded
  rw [product, read, mul_eq, one, unpack_pack_unpacked pos small]
  exact congrArg (fun x => Float.ofModel (.pack x)) rounded

theorem unpack_ofNat (pos : 0 < n) (small : n < 2 ^ 53) :
    (Float.ofNat n).toModel.unpack = unpacked n pos := by
  rw [ofNat_eq pos small]
  exact unpack_pack_unpacked pos small

/-! ### Quotients and sums -/

theorem div_eq (x y : Float) : x / y =
    .ofModel (.pack (UnpackedFloat.div Format.binary64 x.toModel.unpack y.toModel.unpack)) := rfl

theorem div_self_unpacked (pos : 0 < m) (e : ℤ) :
    UnpackedFloat.div Format.binary64 (.finite .positive m e pos) (.finite .positive m e pos) =
      unpacked 1 Nat.one_pos := by
  have target : Format.binary64.targetExponent 0 = -53 := by decide
  have quotient : divCore Format.binary64 m e m e = (1 * 2 ^ 53, -53, .exact) := by
    simp only [divCore, Int.sub_self, target]
    simp [Nat.shiftLeft_eq, pos, accuracyOfFraction]
  simp only [UnpackedFloat.div, quotient]
  exact roundWithAccuracy_count Nat.one_pos (by decide) (j := 53) (by decide)

/-- A count by itself is one. -/
theorem ofNat_div_self (pos : 0 < n) (small : n < 2 ^ 53) :
    Float.ofNat n / Float.ofNat n = Float.ofNat 1 := by
  rw [div_eq, unpack_ofNat pos small, unpacked, div_self_unpacked, ofNat_eq Nat.one_pos (by decide)]

theorem add_eq (x y : Float) : x + y =
    .ofModel (.pack (UnpackedFloat.add Format.binary64 x.toModel.unpack y.toModel.unpack)) := rfl

theorem add_unpacked (pos : 0 < n) (small : n + 1 < 2 ^ 53) :
    UnpackedFloat.add Format.binary64 (unpacked n pos) (unpacked 1 Nat.one_pos) =
      unpacked (n + 1) (Nat.succ_pos n) := by
  have bits := log2_lt pos (by omega)
  have one : unpacked 1 Nat.one_pos = .finite .positive (2 ^ 52) (-52) (by decide) := rfl
  have least : min ((n.log2 : ℤ) - 52) (-52) = -52 := by omega
  have shift : ((n.log2 : ℤ) - 52 - -52).toNat = n.log2 := by omega
  have whole : n * 2 ^ (52 - n.log2) * 2 ^ n.log2 = n * 2 ^ 52 := by
    rw [Nat.mul_assoc, ← Nat.pow_add, Nat.sub_add_cancel (by omega)]
  have sum : Sign.positive.apply (n * 2 ^ 52 : ℕ) + Sign.positive.apply (2 ^ 52 : ℕ) =
      ((n + 1) * 2 ^ 52 : ℕ) := by
    simp only [Sign.apply]
    omega
  rw [one]
  simp only [unpacked, UnpackedFloat.add, least, decreaseExponent, shift, Int.sub_self,
    Int.toNat_zero, Nat.shiftLeft_eq, Nat.pow_zero, Nat.mul_one, whole, sum]
  exact normalize_count (Nat.succ_pos n) small 52

/-- Counting up by one is exact. -/
theorem ofNat_add_one (small : n + 1 < 2 ^ 53) :
    Float.ofNat n + Float.ofNat 1 = Float.ofNat (n + 1) := by
  rcases Nat.eq_zero_or_pos n with rfl | pos
  · decide +kernel
  have here : n < 2 ^ 53 := by omega
  rw [add_eq, unpack_ofNat pos here, unpack_ofNat Nat.one_pos (by decide), add_unpacked pos small,
    ofNat_eq (Nat.succ_pos n) small]

end SqlGrader.Count
