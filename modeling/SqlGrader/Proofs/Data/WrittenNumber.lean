import SqlGrader.Proofs.Data.DecimalCell
import SqlGrader.Proofs.Text.Trim
/-!
# Cells of numbers that are written

A written decimal loses its zeros as a text where the number loses them, and its text is
an integer where the number is one. So the cells that come about by writing are the
cells of values, as far as floats can be written.
-/

namespace SqlGrader

namespace Text

theorem dropEndWhile_append_singleton (p : Char → Bool) (t : Text) (c : Char) :
    dropEndWhile p (t ++ [c]) = if p c then dropEndWhile p t else t ++ [c] := by
  simp only [dropEndWhile_eq]
  split_ifs with drops
  · exact List.rdropWhile_concat_pos p t c drops
  · exact List.rdropWhile_concat_neg p t c drops

theorem digitChar_ne_point (n : ℕ) : n.digitChar ≠ '.' := Nat.digitChar_ne _ (by decide)

theorem dropZeros_zero (t : Text) : dropZeros (t ++ ['0']) = dropZeros t := by
  rw [dropZeros, dropEndWhile_append_singleton]
  rfl

/-- Nothing is dropped after another digit. -/
theorem dropZeros_digit (t : Text) {n : ℕ} (rest : n ≠ 0) :
    dropZeros (t ++ [n.digitChar]) = t ++ [n.digitChar] := by
  have noZero : n.digitChar ≠ '0' := mt Nat.digitChar_eq_zero.mp rest
  simp [dropZeros, dropEndWhile_append_singleton, noZero, digitChar_ne_point]

/-- Nothing but the point is dropped between a digit and the end. -/
theorem dropZeros_point (t : Text) (n : ℕ) :
    dropZeros (t ++ [n.digitChar] ++ ['.']) = t ++ [n.digitChar] := by
  have noPoint : ¬ (n.digitChar == '.') = true := by
    rw [beq_iff_eq]
    exact digitChar_ne_point n
  rw [dropZeros, dropEndWhile_append_singleton, if_neg (by decide), dropEndWhile_append_singleton,
    if_pos (by decide), dropEndWhile_append_singleton, if_neg noPoint]

end Text

namespace Decimal

theorem natText_append_digit (n : ℕ) : ∃ t, natText n = t ++ [(n % 10).digitChar] := by
  rcases Nat.lt_or_ge n 10 with one | more
  · refine ⟨[], ?_⟩
    rw [Nat.mod_eq_of_lt one]
    exact Nat.toDigits_of_lt_base one
  · exact ⟨natText (n / 10), Nat.toDigits_of_base_le (by norm_num) more⟩

/-- The text of a number with a point loses the zeros that the number loses. -/
theorem dropZeros_positional (sign : Text) (units places : ℕ) :
    Text.dropZeros (sign ++ positional units (places + 1)) =
      sign ++ positional (stripPlaces units (places + 1)).1 (stripPlaces units (places + 1)).2 := by
  induction places generalizing units with
  | zero =>
    have split : sign ++ positional units 1 =
        sign ++ natText (units / 10) ++ ['.'] ++ [(units % 10).digitChar] := by
      rw [positional_one]
      simp
    rw [split, stripPlaces]
    split_ifs with zero
    · obtain ⟨t, text⟩ := natText_append_digit (units / 10)
      rw [zero, stripPlaces, positional_zero, text, ← List.append_assoc]
      exact (Text.dropZeros_zero _).trans (Text.dropZeros_point _ _)
    · rw [Text.dropZeros_digit _ zero, split]
  | succ places ih =>
    rw [stripPlaces, positional_succ_succ, ← List.append_assoc]
    split_ifs with zero
    · rw [zero]
      exact (Text.dropZeros_zero _).trans (ih (units / 10))
    · rw [Text.dropZeros_digit _ zero, List.append_assoc, ← positional_succ_succ]

theorem text_inj {d e : Decimal} (same : d.text = e.text) : d = e := by
  have read := NumericText.exactPlain?_text d
  rw [same, NumericText.exactPlain?_text] at read
  exact (Option.some.inj read).symm

/-- The text has a point if there are places. -/
theorem point_mem_positional (units places : ℕ) : '.' ∈ positional units places ↔ places ≠ 0 := by
  cases places with
  | zero =>
    simp only [positional_zero, ne_eq, not_true, iff_false]
    intro mem
    have isDigit := isDigit_of_mem_natText mem
    contradiction
  | succ places =>
    obtain ⟨whole, fraction, text, -⟩ := positional_split units places
    simp [text]

theorem dropZeros_text (d : Decimal) :
    (if d.text.contains '.' then Text.dropZeros d.text else d.text) = d.strip.text := by
  obtain ⟨negative, units, places⟩ := d
  have point : (⟨negative, units, places⟩ : Decimal).text.contains '.' = true ↔ places ≠ 0 := by
    rw [List.contains_iff_mem, ← point_mem_positional units places]
    cases negative <;> simp [text]
  simp only [point]
  cases places with
  | zero => rfl
  | succ places => exact dropZeros_positional _ units places

/-- Only zero is written as `-0`. -/
theorem IsStripped.text_eq_iff {d : Decimal} (h : d.IsStripped) :
    d.text = ['-', '0'] ↔ d.negative = true ∧ d.units = 0 := by
  have zero : (⟨true, 0, 0⟩ : Decimal).text = ['-', '0'] := by decide
  rw [← zero]
  constructor
  · intro same
    rw [text_inj same]
    exact ⟨rfl, rfl⟩
  · rintro ⟨negative, units⟩
    have places := h.places_eq_zero units
    congr 1
    cases d
    simp_all

/-- What a text loses is a sign of zero and what the number loses. -/
theorem trimZeros_text (d : Decimal) : Text.trimZeros d.text = d.normalize.text := by
  rw [Text.trimZeros, dropZeros_text]
  simp only [(isStripped_strip d).text_eq_iff]
  split
  case isTrue zero =>
    rw [normalize_of_zero zero.2]
    decide
  case isFalse other => rw [normalize_eq_strip other]

end Decimal

namespace Text

theorem natOfDigits_eq {w : Text} (digits : ∀ c ∈ w, c.isDigit) (init : ℕ) :
    w.foldl (fun n c => n * 10 + (hexValue? c).getD 0) init = Nat.ofDigitChars 10 w init := by
  induction w generalizing init with
  | nil => rfl
  | cons c w ih =>
    have value : hexValue? c = some (c.toNat - '0'.toNat) := if_pos (digits c List.mem_cons_self)
    rw [List.foldl_cons, ih fun d mem => digits d (List.mem_cons_of_mem c mem), value,
      Nat.ofDigitChars_cons, Nat.mul_comm]
    rfl

theorem int64Of?_positional (d : Decimal) :
    int64Of? d.negative (Decimal.positional d.units d.places) =
      (Cell.integer? d).filter isInt64 := by
  obtain ⟨negative, units, places⟩ := d
  have nonempty : (Decimal.positional units places).isEmpty = false := by
    obtain ⟨c, cs, text, -⟩ := Decimal.positional_head units places
    rw [text]
    rfl
  have point := Decimal.point_mem_positional units places
  simp only [int64Of?, nonempty, Bool.false_or, Cell.integer?]
  by_cases zero : places = 0
  · have spells := Decimal.spells_natText units
    have digits : (Decimal.natText units).all Char.isDigit = true :=
      List.all_eq_true.mpr spells.digits
    have value : natOfDigits 10 (Decimal.natText units) = units :=
      (natOfDigits_eq spells.digits 0).trans spells.value
    simp [zero, Decimal.positional_zero, digits, value]
  · have noDigits : (Decimal.positional units places).all Char.isDigit = false :=
      List.all_eq_false.mpr ⟨'.', point.mpr zero, by decide⟩
    simp [zero, noDigits]

/-- The text of a decimal is an integer if it has no point and is within the bounds. -/
theorem int64?_text (d : Decimal) : int64? d.text = (Cell.integer? d).filter isInt64 := by
  rw [← int64Of?_positional]
  obtain ⟨negative, units, places⟩ := d
  cases negative with
  | true => rfl
  | false =>
    -- Without a minus sign the text starts with a digit, so it is not taken for one with a sign.
    obtain ⟨c, cs, text, isDigit⟩ := Decimal.positional_head units places
    have plain : (⟨false, units, places⟩ : Decimal).text = c :: cs := text
    rw [plain, text, int64?]
    · rintro _ ⟨⟩
      contradiction
    · rintro _ ⟨⟩
      contradiction

end Text

namespace Cell

/-- A decimal that is written and read again gives the cell of the decimal. -/
theorem ofWritten_text (d : Decimal) : ofWritten d.text = ofDecimal d := by
  rw [ofWritten, Decimal.trimZeros_text, Text.int64?_text, ofDecimal_eq]

theorem ofRead_eq (places : ℕ) (d : Decimal) : ofRead places d = ofDecimal (d.roundTo places) := by
  rw [ofRead, Decimal.trimZeros_text, Decimal.normalize_normalize, ofDecimal_eq]

/-- A float that is a word is its whole part. -/
theorem toRat_of_isWord (negative : Bool) {mantissa : ℕ} {exponent : ℤ}
    (word : Binary64.isWord mantissa exponent) :
    Binary64.toRat negative mantissa exponent = Binary64.whole negative mantissa exponent ∧
      isInt64 (Binary64.whole negative mantissa exponent) := by
  have pos := Binary64.fraction_pos mantissa exponent
  rw [Binary64.toRat_eq, ← Binary64.fraction_eq]
  simp only [Binary64.isWord, Binary64.whole] at word ⊢
  generalize Binary64.fraction mantissa exponent = f at *
  obtain ⟨num, den⟩ := f
  simp only [Bool.and_eq_true, beq_iff_eq, decide_eq_true_eq] at pos word ⊢
  obtain ⟨integral, small⟩ := word
  have bound : Nat.pow 2 63 = 9223372036854775808 := by norm_num
  have quotient : (num / den : ℚ) = (num / den : ℕ) := by
    rw [div_eq_iff (by exact_mod_cast pos.ne')]
    exact_mod_cast (Nat.div_mul_cancel (Nat.dvd_of_mod_eq_zero integral)).symm
  rw [quotient]
  generalize num / den = n at *
  simp only [isInt64, Bool.and_eq_true, decide_eq_true_eq]
  cases negative <;> simp only [signed, Bool.false_eq_true, if_false, if_true]
  · exact ⟨by push_cast; rfl, by omega⟩
  · exact ⟨by push_cast; rfl, by omega⟩

theorem ofFloat?_eq (places : ℕ) (x : Float) :
    ofFloat? places x =
      if places ≤ FixedPlaces.limit || !takesPlaces (.float x) then some (ofFloat places x)
      else none := by
  rw [ofFloat?, takesPlaces, ofFloat]
  cases kind : Binary64.ofFloat x with
  | nan => simp
  | infinite => simp
  | finite negative mantissa exponent =>
    have least := Binary64.least_of_ofBits kind
    have rounded := Decimal.value_ofBinary places negative mantissa least
    cases word : Binary64.isWord mantissa exponent with
    | true =>
      -- The cast and the rounding are of the same integer.
      obtain ⟨value, inside⟩ := toRat_of_isWord negative word
      rw [value, toPlaces_intCast] at rounded
      simp [word, ofDecimal_eq_int_iff.mpr ⟨rounded, inside⟩]
    | false =>
      -- All the places asked for and the places that a float can have give the same number.
      have written := Decimal.value_roundFraction places negative mantissa exponent
      have same := (ofDecimal_eq_iff _ _).mpr (written.trans rounded.symm)
      simp only [word, Bool.false_eq_true, if_false, FixedPlaces.write?, Nat.pow_eq,
        Bool.not_false, Bool.not_true, Bool.or_false]
      by_cases few : places ≤ FixedPlaces.limit
      · simp [few, ofWritten_text, same]
      · simp [few]

mutual

/-- Writing gives the cell of a value, if no float in it takes too many places. -/
theorem ofValue?_eq (places : ℕ) (v : Value) :
    ofValue? places v =
      if places ≤ FixedPlaces.limit || !takesPlaces v then some (ofValue places v) else none := by
  cases v with
  | float x => exact ofFloat?_eq places x
  | numeric t =>
    simp only [ofValue?, ofValue, ofNumeric, takesPlaces, Bool.not_false, Bool.or_true, if_true]
    cases NumericText.read? (Text.trim t) with
    | none => rfl
    | some d => exact congrArg some (ofRead_eq places d)
  | array items =>
    rw [ofValue?, ofRow?_eq places items, takesPlaces, ofValue]
    split <;> rfl
  | _ => simp [ofValue?, ofValue, takesPlaces]

theorem ofRow?_eq (places : ℕ) (vs : List Value) :
    ofRow? places vs =
      if places ≤ FixedPlaces.limit || !rowTakesPlaces vs then some (ofRow places vs)
      else none := by
  cases vs with
  | nil => simp [ofRow?, ofRow, rowTakesPlaces]
  | cons v vs =>
    rw [ofRow?, ofValue?_eq places v, ofRow?_eq places vs, rowTakesPlaces, ofRow]
    cases decide (places ≤ FixedPlaces.limit) <;> cases takesPlaces v <;>
      cases rowTakesPlaces vs <;> rfl

end

end Cell

end SqlGrader
