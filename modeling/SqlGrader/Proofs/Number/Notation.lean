import Mathlib.Data.List.DropRight
import Mathlib.Data.Nat.Digits.Defs
import SqlGrader.Number.NumericText
import SqlGrader.Proofs.Number.Rounding
import SqlGrader.Proofs.Text.Case
import SqlGrader.Proofs.Text.Trim
/-!
# Decimals and their texts

The text of a decimal grows by one digit with each place. Read without bounds, it
gives the decimal back. The bounded reading agrees with the unbounded one wherever
the number that it finds is within the bounds.
-/

namespace SqlGrader

namespace Decimal

theorem isDigit_of_mem_natText {n : ℕ} {c : Char} (mem : c ∈ natText n) : c.isDigit :=
  Nat.isDigit_of_mem_toDigits (by norm_num) le_rfl mem

/-- The digits after as many zeros as fill the width. -/
def padded (width n : ℕ) : Text := List.replicate (width - (natText n).length) '0' ++ natText n

theorem padded_one (n : ℕ) : padded 1 n = natText n := by
  have pos : 0 < (natText n).length := Nat.length_toDigits_pos
  rw [padded, Nat.sub_eq_zero_of_le pos, List.replicate_zero, List.nil_append]

theorem padded_succ {width : ℕ} (pos : 0 < width) (n : ℕ) :
    padded (width + 1) n = padded width (n / 10) ++ [(n % 10).digitChar] := by
  rcases Nat.lt_or_ge n 10 with one | more
  · have digits : natText n = [n.digitChar] := Nat.toDigits_of_lt_base one
    have zero : natText (n / 10) = ['0'] := by rw [Nat.div_eq_of_lt one]; rfl
    rw [padded, padded, digits, zero, Nat.mod_eq_of_lt one]
    simp [← List.replicate_succ', Nat.sub_add_cancel pos]
  · have digits : natText n = natText (n / 10) ++ [(n % 10).digitChar] :=
      Nat.toDigits_of_base_le (by norm_num) more
    simp [padded, digits]

theorem positional_zero (units : ℕ) : positional units 0 = natText units := by
  rw [positional, if_pos rfl]
  exact padded_one units

theorem positional_succ (units places : ℕ) :
    positional units (places + 1) =
      let digits := padded (places + 2) units
      digits.take (digits.length - (places + 1)) ++
        '.' :: digits.drop (digits.length - (places + 1)) := by
  rw [positional, if_neg (Nat.succ_ne_zero places)]
  rfl

theorem positional_one (units : ℕ) :
    positional units 1 = natText (units / 10) ++ ['.', (units % 10).digitChar] := by
  rw [positional_succ, padded_succ one_pos, padded_one]
  simp

/-- One more place, one more digit. -/
theorem positional_succ_succ (units places : ℕ) :
    positional units (places + 2) =
      positional (units / 10) (places + 1) ++ [(units % 10).digitChar] := by
  rw [positional_succ, positional_succ, padded_succ (Nat.succ_pos _)]
  generalize padded (places + 2) (units / 10) = digits
  have point : (digits ++ [(units % 10).digitChar]).length - (places + 1 + 1) =
      digits.length - (places + 1) := by
    rw [List.length_append, List.length_singleton, Nat.add_sub_add_right]
  have inside : digits.length - (places + 1) ≤ digits.length := Nat.sub_le _ _
  simp only [point, List.take_append_of_le_length inside, List.drop_append_of_le_length inside,
    List.append_assoc, List.cons_append]

/-- Digits whose number is `n`. -/
structure Spells (w : Text) (n : ℕ) : Prop where
  digits : ∀ c ∈ w, c.isDigit
  value : Nat.ofDigitChars 10 w 0 = n

theorem spells_natText (n : ℕ) : Spells (natText n) n :=
  ⟨fun _ => isDigit_of_mem_natText, Nat.ofDigitChars_ten_toDigits⟩

theorem Spells.append_digit {w : Text} {n : ℕ} (h : Spells w (n / 10)) :
    Spells (w ++ [(n % 10).digitChar]) n := by
  have digit : n % 10 < 10 := Nat.mod_lt n (by norm_num)
  constructor
  · intro c mem
    rcases List.mem_append.mp mem with before | last
    · exact h.digits c before
    · rw [List.mem_singleton.mp last, Nat.isDigit_digitChar]
      exact decide_eq_true digit
  · rw [Nat.ofDigitChars_append, h.value, Nat.ofDigitChars_cons_digitChar_of_lt_ten digit,
      Nat.ofDigitChars_nil, Nat.div_add_mod]

/-- The text with a point: digits before it, and one digit after it for each place. -/
theorem positional_split (units places : ℕ) : ∃ whole fraction : Text,
    positional units (places + 1) = whole ++ '.' :: fraction ∧ whole ≠ [] ∧
      fraction.length = places + 1 ∧ Spells (whole ++ fraction) units := by
  induction places generalizing units with
  | zero =>
    refine ⟨natText (units / 10), [(units % 10).digitChar], positional_one units,
      Nat.toDigits_ne_nil, rfl, ?_⟩
    exact (spells_natText (units / 10)).append_digit
  | succ places ih =>
    obtain ⟨whole, fraction, text, nonempty, length, spells⟩ := ih (units / 10)
    refine ⟨whole, fraction ++ [(units % 10).digitChar], ?_, nonempty, ?_, ?_⟩
    · rw [positional_succ_succ, text, List.append_assoc, List.cons_append]
    · rw [List.length_append, length, List.length_singleton]
    · rw [← List.append_assoc]
      exact spells.append_digit

/-- The first character is a digit. -/
theorem positional_head (units places : ℕ) :
    ∃ c cs, positional units places = c :: cs ∧ c.isDigit := by
  cases places with
  | zero =>
    obtain ⟨c, cs, text⟩ := List.exists_cons_of_ne_nil (Nat.toDigits_ne_nil (b := 10) (n := units))
    refine ⟨c, cs, (positional_zero units).trans text, ?_⟩
    apply isDigit_of_mem_natText (n := units)
    rw [natText, text]
    exact List.mem_cons_self
  | succ places =>
    obtain ⟨whole, fraction, text, nonempty, -, spells⟩ := positional_split units places
    obtain ⟨c, cs, rfl⟩ := List.exists_cons_of_ne_nil nonempty
    exact ⟨c, _, text, spells.digits c List.mem_cons_self⟩

theorem mem_positional {units places : ℕ} {c : Char} (mem : c ∈ positional units places) :
    c = '.' ∨ c.isDigit := by
  cases places with
  | zero =>
    rw [positional_zero] at mem
    exact .inr (isDigit_of_mem_natText mem)
  | succ places =>
    obtain ⟨whole, fraction, text, -, -, spells⟩ := positional_split units places
    rw [text, List.mem_append, List.mem_cons] at mem
    obtain inWhole | point | inFraction := mem
    · exact .inr (spells.digits c (List.mem_append_left fraction inWhole))
    · exact .inl point
    · exact .inr (spells.digits c (List.mem_append_right whole inFraction))

/-- There is no white space in the text. -/
theorem isBlank_of_mem_text {d : Decimal} {c : Char} (mem : c ∈ d.text) :
    Text.isBlank c = false := by
  have one : c = '-' ∨ c = '.' ∨ c.isDigit := by
    obtain sign | digits := List.mem_append.mp mem
    · split at sign
      · exact .inl (List.mem_singleton.mp sign)
      · exact absurd sign List.not_mem_nil
    · exact .inr (mem_positional digits)
  obtain rfl | rfl | isDigit := one
  · decide
  · decide
  · rw [Text.isDigit_iff] at isDigit
    simp [Text.isBlank]
    omega

theorem trim_text (d : Decimal) : Text.trim d.text = d.text := by
  apply Text.Trimmed.trim
  constructor
  · intro c first
    rw [isBlank_of_mem_text (List.mem_of_mem_head? first)]
    exact Bool.false_ne_true
  · intro c last
    rw [isBlank_of_mem_text (List.mem_of_mem_getLast? last)]
    exact Bool.false_ne_true

end Decimal

namespace NumericText

/-- Reads on after the sign as `readFrom` does, but with room for all digits. -/
def exactFrom (negative point digit : Bool) (units places : ℕ) : Text → Option Decimal
  | [] => if digit then some ⟨negative, units, places⟩ else none
  | c :: cs =>
    if c = '_' && digit then exactFrom negative point digit units places cs
    else if c.isDigit then
      exactFrom negative point true (units * 10 + digitValue c) (if point then places + 1 else 0) cs
    else if c = '.' && !point then exactFrom negative true digit units places cs
    else none

/-- The number without an exponent that a text is, of any length. -/
def exactPlain? : Text → Option Decimal
  | '-' :: cs => exactFrom true false false 0 0 cs
  | '+' :: cs => exactFrom false false false 0 0 cs
  | cs => exactFrom false false false 0 0 cs

/-- The number that a text is, with an exponent or without one. -/
def value? (t : Text) : Option ℚ :=
  match cutExponent? t with
  | none => (exactPlain? t).map Decimal.value
  | some (base, '-' :: exponent) => do
    let d ← exactPlain? base
    let n ← Text.natural? exponent
    some (d.value / 10 ^ n)
  | some (base, exponent) => do
    let d ← exactPlain? base
    let n ← Text.natural? exponent
    some (d.value * 10 ^ n)

theorem exactFrom_digit {c : Char} (isDigit : c.isDigit) (negative point digit : Bool)
    (units places : ℕ) (cs : Text) :
    exactFrom negative point digit units places (c :: cs) =
      exactFrom negative point true (units * 10 + digitValue c) (if point then places + 1 else 0)
        cs := by
  have noGap : c ≠ '_' := by
    rintro rfl
    contradiction
  rw [exactFrom, if_neg (by simp [noGap]), if_pos isDigit]

theorem exactFrom_point (negative digit : Bool) (units places : ℕ) (cs : Text) :
    exactFrom negative false digit units places ('.' :: cs) =
      exactFrom negative true digit units places cs := rfl

/-- Digits are read one by one; after the point each of them is a place. -/
theorem exactFrom_digits {w : Text} (digits : ∀ c ∈ w, c.isDigit) (negative point digit : Bool)
    (units places : ℕ) (rest : Text) :
    exactFrom negative point digit units (if point then places else 0) (w ++ rest) =
      exactFrom negative point (digit || !w.isEmpty) (Nat.ofDigitChars 10 w units)
        (if point then places + w.length else 0) rest := by
  induction w generalizing digit units places with
  | nil => simp
  | cons c w ih =>
    have read := ih (fun d mem => digits d (List.mem_cons_of_mem c mem)) true
      (units * 10 + digitValue c) (places + 1)
    have next : (if point then (if point then places else 0) + 1 else 0) =
        if point then places + 1 else 0 := by
      cases point <;> rfl
    rw [List.cons_append, exactFrom_digit (digits c List.mem_cons_self), next, read,
      Nat.ofDigitChars_cons, Nat.mul_comm 10, List.length_cons, Nat.add_right_comm]
    simp [digitValue, Nat.add_assoc]

theorem exactFrom_positional (negative : Bool) (units places : ℕ) :
    exactFrom negative false false 0 0 (Decimal.positional units places) =
      some ⟨negative, units, places⟩ := by
  cases places with
  | zero =>
    have spells := Decimal.spells_natText units
    have nonempty : (Decimal.natText units).isEmpty = false :=
      List.isEmpty_eq_false_iff.mpr Nat.toDigits_ne_nil
    have read := exactFrom_digits spells.digits negative false false 0 0 []
    rw [List.append_nil, spells.value, nonempty] at read
    rw [Decimal.positional_zero]
    exact read
  | succ places =>
    obtain ⟨whole, fraction, text, nonempty, length, spells⟩ :=
      Decimal.positional_split units places
    have readWhole := exactFrom_digits
      (fun c mem => spells.digits c (List.mem_append_left fraction mem)) negative false false 0 0
      ('.' :: fraction)
    have readFraction := exactFrom_digits
      (fun c mem => spells.digits c (List.mem_append_right whole mem)) negative true true
      (Nat.ofDigitChars 10 whole 0) 0 []
    rw [List.append_nil, ← Nat.ofDigitChars_append, spells.value] at readFraction
    rw [text]
    refine readWhole.trans ?_
    rw [List.isEmpty_eq_false_iff.mpr nonempty]
    refine (exactFrom_point _ _ _ _ _).trans (readFraction.trans ?_)
    simp [exactFrom, length]

/-- The text of a decimal gives it back. -/
theorem exactPlain?_text (d : Decimal) : exactPlain? d.text = some d := by
  obtain ⟨negative, units, places⟩ := d
  have read := exactFrom_positional negative units places
  cases negative with
  | true => exact read
  | false =>
    obtain ⟨c, cs, text, isDigit⟩ := Decimal.positional_head units places
    have plain : (⟨false, units, places⟩ : Decimal).text = c :: cs := text
    rw [text] at read
    rw [plain, exactPlain?]
    · exact read
    · rintro _ ⟨⟩
      contradiction
    · rintro _ ⟨⟩
      contradiction

/-- A number goes on with a gap after a digit, with a digit or with the point. -/
theorem exactFrom_cons {negative point digit : Bool} {units places : ℕ} {c : Char} {cs : Text}
    {d : Decimal} (read : exactFrom negative point digit units places (c :: cs) = some d) :
    (c = '_' ∧ digit = true ∧ exactFrom negative point digit units places cs = some d) ∨
      (c.isDigit = true ∧
        exactFrom negative point true (units * 10 + digitValue c) (if point then places + 1 else 0)
          cs = some d) ∨
        (c = '.' ∧ point = false ∧ exactFrom negative true digit units places cs = some d) := by
  rw [exactFrom] at read
  split at read
  case isTrue gap =>
    simp only [Bool.and_eq_true, decide_eq_true_eq] at gap
    exact .inl ⟨gap.1, gap.2, read⟩
  case isFalse =>
    split at read
    case isTrue isDigit => exact .inr (.inl ⟨isDigit, read⟩)
    case isFalse =>
      split at read
      case isTrue dot =>
        simp only [Bool.and_eq_true, decide_eq_true_eq, Bool.not_eq_true'] at dot
        exact .inr (.inr ⟨dot.1, dot.2, read⟩)
      case isFalse => contradiction

/-- What was read of a number stays in it. -/
theorem le_of_exactFrom {negative point digit : Bool} {units places : ℕ} {t : Text} {d : Decimal}
    (read : exactFrom negative point digit units places t = some d) :
    units ≤ d.units ∧ (point → places ≤ d.places) := by
  induction t generalizing point digit units places with
  | nil =>
    rw [exactFrom] at read
    split_ifs at read
    cases read
    exact ⟨le_rfl, fun _ => le_rfl⟩
  | cons c cs ih =>
    obtain ⟨-, -, read⟩ | ⟨-, read⟩ | ⟨-, noPoint, read⟩ := exactFrom_cons read
    · exact ih read
    · obtain ⟨grown, more⟩ := ih read
      refine ⟨by omega, fun hasPoint => ?_⟩
      have more := more hasPoint
      rw [if_pos hasPoint] at more
      omega
    · refine ⟨(ih read).1, fun hasPoint => ?_⟩
      rw [noPoint] at hasPoint
      contradiction

/-- If the number has no more places than were read, no more than gaps follow. -/
theorem isSurplus_of_exactFrom {negative digit : Bool} {units places : ℕ} {t : Text} {d : Decimal}
    (read : exactFrom negative true digit units places t = some d) (full : d.places ≤ places) :
    isSurplus t ∧ d = ⟨negative, units, places⟩ := by
  induction t generalizing digit with
  | nil =>
    rw [exactFrom] at read
    split_ifs at read
    cases read
    exact ⟨rfl, rfl⟩
  | cons c cs ih =>
    obtain ⟨rfl, -, read⟩ | ⟨-, read⟩ | ⟨-, noPoint, -⟩ := exactFrom_cons read
    · exact ih read
    · have more := (le_of_exactFrom read).2 rfl
      rw [if_pos rfl] at more
      omega
    · contradiction

/-- A number within the bounds is read as it is. -/
theorem readFrom_of_exactFrom {negative point digit : Bool} {units places : ℕ} {t : Text}
    {d : Decimal} (read : exactFrom negative point digit units places t = some d)
    (fits : d.units < unitLimit) (few : d.places ≤ maxPlaces) :
    readFrom negative point digit units places t = some d := by
  induction t generalizing point digit units places with
  | nil => exact read
  | cons c cs ih =>
    obtain ⟨rfl, hasDigit, read⟩ | ⟨isDigit, read⟩ | ⟨rfl, rfl, read⟩ := exactFrom_cons read
    · -- A gap ends a short number that is full: as no place is lost, only gaps can follow.
      have goesOn := ih read
      rw [readFrom, hasDigit]
      simp only [decide_true, Bool.and_self, if_true]
      split
      case isTrue full =>
        simp only [Bool.and_eq_true, decide_eq_true_eq] at full
        obtain ⟨⟨rfl, many⟩, -⟩ := full
        obtain ⟨surplus, same⟩ := isSurplus_of_exactFrom read (few.trans many)
        rw [if_pos surplus, same]
      case isFalse => rwa [hasDigit] at goesOn
    · have noGap : c ≠ '_' := by
        rintro rfl
        contradiction
      obtain ⟨grown, more⟩ := le_of_exactFrom read
      have notFull : (point && decide (maxPlaces ≤ places)) = false := by
        cases point
        · rfl
        · have := more rfl
          rw [if_pos rfl] at this
          exact decide_eq_false (by omega)
      have small : units * 10 + digitValue c < unitLimit := by omega
      rw [readFrom]
      simp only [noGap, notFull, isDigit, small, decide_false, Bool.false_and, Bool.false_eq_true,
        if_false, if_true]
      exact ih read
    · exact ih read

theorem plain?_of_exactPlain? {t : Text} {d : Decimal} (read : exactPlain? t = some d)
    (fits : d.units < unitLimit) (few : d.places ≤ maxPlaces) : plain? t = some d := by
  unfold exactPlain? at read
  split at read
  · exact readFrom_of_exactFrom read fits few
  · exact readFrom_of_exactFrom read fits few
  · rw [plain?]
    · exact readFrom_of_exactFrom read fits few
    · assumption
    · assumption

theorem cutExponent?_of_exactFrom {negative point digit : Bool} {units places : ℕ} {t : Text}
    {d : Decimal} (read : exactFrom negative point digit units places t = some d) :
    cutExponent? t = none := by
  induction t generalizing point digit units places with
  | nil => rfl
  | cons c cs ih =>
    have noMark (rest : Text) (plain : c = '_' ∨ c.isDigit ∨ c = '.')
        (none : cutExponent? rest = none) : cutExponent? (c :: rest) = .none := by
      have : c ≠ 'e' ∧ c ≠ 'E' := by
        constructor <;> (rintro rfl; simp at plain)
      simp [cutExponent?, this, none]
    obtain ⟨gap, -, read⟩ | ⟨isDigit, read⟩ | ⟨dot, -, read⟩ := exactFrom_cons read
    · exact noMark cs (.inl gap) (ih read)
    · exact noMark cs (.inr (.inl isDigit)) (ih read)
    · exact noMark cs (.inr (.inr dot)) (ih read)

theorem cutExponent?_of_exactPlain? {t : Text} {d : Decimal} (read : exactPlain? t = some d) :
    cutExponent? t = none := by
  unfold exactPlain? at read
  split at read
  · simp [cutExponent?, cutExponent?_of_exactFrom read]
  · simp [cutExponent?, cutExponent?_of_exactFrom read]
  · exact cutExponent?_of_exactFrom read

/-- A text without an exponent whose number is within the bounds is read without loss. -/
theorem read?_of_exactPlain? {t : Text} {d : Decimal} (read : exactPlain? t = some d)
    (fits : d.units < unitLimit) (few : d.places ≤ maxPlaces) :
    read? t = some d ∧ value? t = some d.value := by
  have cut := cutExponent?_of_exactPlain? read
  constructor
  · rw [read?, cut]
    exact plain?_of_exactPlain? read fits few
  · rw [value?, cut]
    exact congrArg (Option.map Decimal.value) read

end NumericText

end SqlGrader
