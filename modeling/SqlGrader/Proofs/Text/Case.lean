import Mathlib.Tactic.IntervalCases
import SqlGrader.Sql.Lexer
import SqlGrader.Text.Run
import SqlGrader.Text.Lowercase
/-!
# Texts up to the case of ASCII letters

Capitals change letters into letters and nothing else. A character that is not
a letter is therefore the only one of its case, and every class of characters
that a statement is read by holds a letter together with its capital.
-/

namespace SqlGrader.Text

variable {c d : Char} {s t : Text}

/-! ### Letters and digits -/

theorem isUpper_iff : c.isUpper ↔ 65 ≤ c.toNat ∧ c.toNat ≤ 90 := by
  show decide (c.val ≥ 'A'.val ∧ c.val ≤ 'Z'.val) = true ↔ _
  rw [decide_eq_true_iff, ge_iff_le, UInt32.le_iff_toNat_le, UInt32.le_iff_toNat_le]
  rfl

theorem isLower_iff : c.isLower ↔ 97 ≤ c.toNat ∧ c.toNat ≤ 122 := by
  show (decide (c.val ≥ 'a'.val) && decide (c.val ≤ 'z'.val)) = true ↔ _
  rw [Bool.and_eq_true, decide_eq_true_iff, decide_eq_true_iff, ge_iff_le,
    UInt32.le_iff_toNat_le, UInt32.le_iff_toNat_le]
  rfl

theorem isAlpha_iff : c.isAlpha ↔ c.isUpper ∨ c.isLower := by
  show (c.isUpper || c.isLower) = true ↔ _
  rw [Bool.or_eq_true]

theorem isDigit_iff : c.isDigit ↔ 48 ≤ c.toNat ∧ c.toNat ≤ 57 := by
  show (decide (c.val ≥ '0'.val) && decide (c.val ≤ '9'.val)) = true ↔ _
  rw [Bool.and_eq_true, decide_eq_true_iff, decide_eq_true_iff, ge_iff_le,
    UInt32.le_iff_toNat_le, UInt32.le_iff_toNat_le]
  rfl

/-- A character is its own capital, or it is one of the small letters. -/
theorem toUpper_cases (c : Char) :
    c.toUpper = c ∨ (c.isLower ∧ c.toUpper.isUpper ∧ c.toNat < 128 ∧ c.toUpper.toNat < 128 ∧
      c.toUpper.toLower = c ∧ c.toLower = c) := by
  by_cases small : 97 ≤ c.toNat ∧ c.toNat ≤ 122
  · right
    obtain ⟨low, high⟩ := small
    have same : c = Char.ofNat c.toNat := (Char.ofNat_toNat c).symm
    generalize c.toNat = n at low high same
    subst same
    interval_cases n <;> decide
  · left
    have outside : ¬ ('a'.val ≤ c.val ∧ c.val ≤ 'z'.val) := by
      intro ⟨low, high⟩
      exact small ⟨low, high⟩
    exact dif_neg outside

theorem toUpper_of_isUpper (capital : c.isUpper) : c.toUpper = c := by
  obtain same | ⟨small, -⟩ := toUpper_cases c
  · exact same
  · rw [isUpper_iff] at capital
    rw [isLower_iff] at small
    omega

@[simp] theorem toUpper_toUpper (c : Char) : c.toUpper.toUpper = c.toUpper := by
  obtain same | ⟨-, capital, -⟩ := toUpper_cases c
  · rw [same, same]
  · exact toUpper_of_isUpper capital

@[simp] theorem upper_upper (t : Text) : upper (upper t) = upper t := by
  simp [upper]

/-- A character that is no letter is the only one of its case. -/
theorem eq_of_toUpper_eq (same : c.toUpper = d.toUpper) (caseless : d.isAlpha = false) :
    c = d := by
  rw [← Bool.not_eq_true, isAlpha_iff, not_or] at caseless
  obtain kept | ⟨small, -⟩ := toUpper_cases d
  · obtain kept' | ⟨-, capital, -⟩ := toUpper_cases c
    · rw [← kept', same, kept]
    · rw [same, kept] at capital
      exact absurd capital caseless.1
  · exact absurd small caseless.2

theorem toUpper_eq_iff (caseless : d.isAlpha = false) : c.toUpper = d ↔ c = d := by
  have kept : d.toUpper = d := by
    obtain kept | ⟨small, -⟩ := toUpper_cases d
    · exact kept
    · rw [isAlpha_iff.mpr (.inr small)] at caseless
      cases caseless
  constructor
  · intro same
    exact eq_of_toUpper_eq (same.trans kept.symm) caseless
  · rintro rfl
    exact kept

theorem toNat_of_isAlpha (letter : c.isAlpha) :
    (65 ≤ c.toNat ∧ c.toNat ≤ 90) ∨ (97 ≤ c.toNat ∧ c.toNat ≤ 122) := by
  rwa [isAlpha_iff, isUpper_iff, isLower_iff] at letter

theorem isAlpha_of_toUpper (capital : c.toUpper.isUpper) : c.isAlpha := by
  obtain same | ⟨small, -⟩ := toUpper_cases c
  · rw [same] at capital
    exact isAlpha_iff.mpr (.inl capital)
  · exact isAlpha_iff.mpr (.inr small)

theorem isBlank_of_isAlpha (letter : c.isAlpha) : isBlank c = false := by
  have range := toNat_of_isAlpha letter
  simp [isBlank]
  omega

theorem isBlank_toUpper (c : Char) : isBlank c.toUpper = isBlank c := by
  obtain same | ⟨small, capital, -⟩ := toUpper_cases c
  · rw [same]
  · rw [isBlank_of_isAlpha (isAlpha_iff.mpr (.inl capital)),
      isBlank_of_isAlpha (isAlpha_iff.mpr (.inr small))]

theorem head?_of_upper_eq (same : upper s = upper t) (head : t.head? = some d) :
    ∃ c, s.head? = some c ∧ c.toUpper = d.toUpper := by
  have heads := congrArg List.head? same
  simp only [upper, List.head?_map, head, Option.map_some] at heads
  exact Option.map_eq_some_iff.mp heads

theorem getLast?_of_upper_eq (same : upper s = upper t) (last : t.getLast? = some d) :
    ∃ c, s.getLast? = some c ∧ c.toUpper = d.toUpper := by
  have lasts := congrArg List.getLast? same
  simp only [upper, List.getLast?_map, last, Option.map_some] at lasts
  exact Option.map_eq_some_iff.mp lasts

theorem not_head?_dropWhile (p : Char → Bool) (t : Text) : ¬ (t.dropWhile p).head?.any p := by
  have stops := List.head?_dropWhile_not p t
  cases head : (t.dropWhile p).head? with
  | none => simp
  | some d => simpa [head] using stops

/-- A stretch of one class ends where a text starts with another one. -/
theorem takeWhile_append {p : Char → Bool} (all : ∀ c ∈ s, p c) (stops : ¬ t.head?.any p) :
    (s ++ t).takeWhile p = s ∧ (s ++ t).dropWhile p = t := by
  rw [List.takeWhile_append_of_pos all, List.dropWhile_append_of_pos all]
  cases t with
  | nil => simp
  | cons c cs =>
      have other : ¬ p c := by simpa using stops
      simp [other]

theorem dropStartIgnoringCase?_eq_some {rest : Text} :
    dropStartIgnoringCase? s t = some rest ↔
      ∃ start, t = start ++ rest ∧ upper start = upper s := by
  unfold dropStartIgnoringCase? equalsIgnoringCase
  constructor
  · intro found
    split at found
    next same =>
      obtain rfl := Option.some.inj found
      exact ⟨t.take s.length, (List.take_append_drop ..).symm, (beq_iff_eq.mp same).symm⟩
    next => cases found
  · rintro ⟨start, rfl, same⟩
    have len : start.length = s.length := by simpa [upper] using congrArg List.length same
    simp [← len, same]

/-! ### Lower case -/

theorem isCased_toUpper (c : Char) : isCased c.toUpper = isCased c := by
  obtain same | ⟨small, capital, low, low', -⟩ := toUpper_cases c
  · rw [same]
  · simp [isCased, isAlpha_iff.mpr (.inl capital), isAlpha_iff.mpr (.inr small), low, low']

theorem isCaseIgnorable_toUpper (c : Char) : isCaseIgnorable c.toUpper = isCaseIgnorable c := by
  obtain same | ⟨-, -, low, low', -⟩ := toUpper_cases c
  · rw [same]
  · have marks : ∀ d : Char, d.isAlpha = false → (c.toUpper == d) = (c == d) := by
      intro d caseless
      rw [Bool.eq_iff_iff, beq_iff_eq, beq_iff_eq, toUpper_eq_iff caseless]
    simp [isCaseIgnorable, low, low', marks]

theorem startsCased_upper (t : Text) : startsCased (upper t) = startsCased t := by
  have blind : isCaseIgnorable ∘ Char.toUpper = isCaseIgnorable := funext isCaseIgnorable_toUpper
  rw [startsCased, startsCased, upper, List.dropWhile_map, blind]
  cases t.dropWhile isCaseIgnorable with
  | nil => rfl
  | cons c cs => exact isCased_toUpper c

theorem lowercaseChar_toUpper (c : Char) : lowercaseChar c.toUpper = lowercaseChar c := by
  obtain same | ⟨-, -, low, low', back, kept⟩ := toUpper_cases c
  · rw [same]
  · simp [lowercaseChar, low, low', back, kept]

theorem lowercaseAfter_upper (before t : Text) :
    lowercaseAfter (upper before) (upper t) = lowercaseAfter before t := by
  induction t generalizing before with
  | nil => rfl
  | cons c cs ih =>
      have sigma : c.toUpper = 'Σ' ↔ c = 'Σ' := toUpper_eq_iff (by decide)
      have next := ih (c :: before)
      simp only [upper, List.map_cons, lowercaseAfter] at next ⊢
      rw [next]
      simp only [sigma, lowercaseChar_toUpper]
      have left := startsCased_upper before
      have right := startsCased_upper cs
      simp only [upper] at left right
      rw [left, right]

/-- Lower case does not see capitals. -/
theorem lowercase_upper (t : Text) : lowercase (upper t) = lowercase t :=
  lowercaseAfter_upper [] t

end SqlGrader.Text
