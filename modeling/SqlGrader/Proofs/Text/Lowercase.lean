import SqlGrader.Proofs.Text.Case
/-!
# Lower case in every script

What lower case makes of a character is in lower case already, so a text in lower
case stays as it is. The only character beyond ASCII whose lower case is an ASCII
letter is the Kelvin sign, so a word with the same lower case as an ASCII word
without a K is that word up to the case of ASCII letters.
-/

namespace SqlGrader.Text

open Property

variable {c d : Char} {s t before : Text} {r : CaseRange} {m n : Nat}

/-! ### The table of single characters -/

/-- Whether no lower case that the stretch `r` gives is one of the capitals of `s`. -/
def apart (r s : CaseRange) : Bool :=
  r.target + (r.last - r.first) < s.first || s.last < r.target ||
    ((r.step == 2 || r.first == r.last) && s.step == 2 && (r.target + s.first) % 2 == 1)

/-- Whether the stretch gives characters other than the two letters with rules of their own. -/
def isRegular (r : CaseRange) : Bool :=
  let last := r.target + (r.last - r.first)
  (last < 0xd800 || 0xdfff < r.target && last < 0x110000) &&
    (last < 0x130 || 0x130 < r.target) && (last < 0x3a3 || 0x3a3 < r.target) &&
    (128 ≤ r.target || r.first == 0x212a && r.last == 0x212a && r.target == 0x6b)

theorem lowercase_apart :
    (Property.lowercase.all fun r => Property.lowercase.all (apart r)) = true := by
  decide +kernel

theorem lowercase_regular : Property.lowercase.all isRegular = true := by
  decide +kernel

theorem map?_eq_some (found : r.map? m = some n) :
    r.first ≤ m ∧ m ≤ r.last ∧ (m - r.first) % r.step = 0 ∧ n = r.target + (m - r.first) := by
  unfold CaseRange.map? at found
  split at found
  next inside => exact ⟨inside.1, inside.2.1, inside.2.2, (Option.some.inj found).symm⟩
  next => cases found

/-- What one stretch gives is in no other one. -/
theorem map?_of_apart {s : CaseRange} (far : apart r s) (found : r.map? m = some n) :
    s.map? n = none := by
  obtain ⟨low, high, even, rfl⟩ := map?_eq_some found
  refine Option.eq_none_iff_forall_not_mem.mpr fun k found' => ?_
  obtain ⟨low', high', even', -⟩ := map?_eq_some found'
  simp only [apart, Bool.or_eq_true, Bool.and_eq_true, decide_eq_true_eq, beq_iff_eq] at far
  rcases far with (below | above) | ⟨⟨step | single, step'⟩, odd⟩
  · omega
  · omega
  · rw [step] at even
    rw [step'] at even'
    omega
  · rw [step'] at even'
    omega

/-- Lower case of a character beyond ASCII, as the table has it. -/
def small? (n : Nat) : Option Nat := Property.lowercase.findSome? (·.map? n)

theorem small?_eq_some (found : small? m = some n) : ∃ r ∈ Property.lowercase, r.map? m = some n :=
  List.exists_of_findSome?_eq_some found

theorem small?_small? (found : small? m = some n) : small? n = none := by
  obtain ⟨r, mem, here⟩ := small?_eq_some found
  refine List.findSome?_eq_none_iff.mpr fun s mem' => ?_
  have far := List.all_eq_true.mp (List.all_eq_true.mp lowercase_apart r mem) s mem'
  exact map?_of_apart far here

/-- A lower case is a character, and it is not an ASCII letter but for that of the Kelvin sign. -/
theorem small?_regular (found : small? m = some n) :
    n.isValidChar ∧ n ≠ 0x130 ∧ n ≠ 0x3a3 ∧ (128 ≤ n ∨ n = 0x6b) := by
  obtain ⟨r, mem, here⟩ := small?_eq_some found
  obtain ⟨low, high, -, rfl⟩ := map?_eq_some here
  have regular := List.all_eq_true.mp lowercase_regular r mem
  simp only [isRegular, Bool.or_eq_true, Bool.and_eq_true, decide_eq_true_eq, beq_iff_eq]
    at regular
  obtain ⟨⟨⟨valid, dotted⟩, sigma⟩, ascii⟩ := regular
  refine ⟨?_, ?_, ?_, ?_⟩
  · unfold Nat.isValidChar
    omega
  · omega
  · omega
  · omega

/-! ### Texts in lower case -/

theorem toNat_ofNat (valid : n.isValidChar) : (Char.ofNat n).toNat = n := by
  rw [Char.ofNat, dif_pos valid]
  rfl

/-- What holds for the first 128 characters, one by one, holds for every ASCII character. -/
theorem forall_ascii {P : Char → Prop} (all : ∀ n < 128, P (Char.ofNat n)) (ascii : c.toNat < 128) :
    P c := by
  have here := all c.toNat ascii
  rwa [Char.ofNat_toNat] at here

/-- Whether lower case keeps the character, wherever it stands. -/
def IsSmall (c : Char) : Prop := c ≠ 'Σ' ∧ lowercaseChar c = [c]

instance (c : Char) : Decidable (IsSmall c) := inferInstanceAs (Decidable (_ ∧ _))

theorem isSmall_toLower (ascii : c.toNat < 128) : IsSmall c.toLower :=
  forall_ascii (P := fun c => IsSmall c.toLower) (by decide +kernel) ascii

theorem isSmall_ofNat (found : small? m = some n) : IsSmall (Char.ofNat n) := by
  obtain ⟨valid, dotted, sigma, range⟩ := small?_regular found
  have code : (Char.ofNat n).toNat = n := toNat_ofNat valid
  rcases range with beyond | rfl
  · refine ⟨?_, ?_⟩
    · intro same
      exact sigma (by rw [← code, same]; rfl)
    · have other : Char.ofNat n ≠ 'İ' := by
        intro same
        exact dotted (by rw [← code, same]; rfl)
      have last := small?_small? found
      unfold small? at last
      rw [lowercaseChar, code, if_neg (by omega), if_neg other, last]
  · exact ⟨by decide, by decide⟩

theorem isSmall_of_lowercaseChar (other : c ≠ 'Σ') : ∀ d ∈ lowercaseChar c, IsSmall d := by
  intro d mem
  unfold lowercaseChar at mem
  split at mem
  next ascii =>
    rw [List.mem_singleton.mp mem]
    exact isSmall_toLower ascii
  split at mem
  next =>
    rcases List.mem_cons.mp mem with rfl | mem
    · exact ⟨by decide, by decide⟩
    · rw [List.mem_singleton.mp mem]
      exact ⟨by decide, by decide +kernel⟩
  split at mem
  next n found =>
    rw [List.mem_singleton.mp mem]
    exact isSmall_ofNat found
  next none =>
    rw [List.mem_singleton.mp mem]
    refine ⟨other, ?_⟩
    rw [lowercaseChar, if_neg ‹_›, if_neg ‹_›, none]

theorem isSmall_of_lowercaseAfter (before t : Text) : ∀ d ∈ lowercaseAfter before t, IsSmall d := by
  induction t generalizing before with
  | nil => simp [lowercaseAfter]
  | cons c cs ih =>
      intro d mem
      rw [lowercaseAfter] at mem
      rcases List.mem_append.mp mem with here | later
      · split at here
        next =>
          have sigmas : IsSmall 'ς' ∧ IsSmall 'σ' :=
            ⟨⟨by decide, by decide +kernel⟩, ⟨by decide, by decide +kernel⟩⟩
          split at here
          · exact List.mem_singleton.mp here ▸ sigmas.1
          · exact List.mem_singleton.mp here ▸ sigmas.2
        next other => exact isSmall_of_lowercaseChar other d here
      · exact ih _ d later

theorem lowercaseAfter_of_isSmall (small : ∀ c ∈ t, IsSmall c) : lowercaseAfter before t = t := by
  induction t generalizing before with
  | nil => rfl
  | cons c cs ih =>
      rw [List.forall_mem_cons] at small
      rw [lowercaseAfter, if_neg small.1.1, small.1.2, ih small.2]
      rfl

/-- Lower case has nothing left to change. -/
@[simp] theorem lowercase_lowercase (t : Text) : lowercase (lowercase t) = lowercase t :=
  lowercaseAfter_of_isSmall (isSmall_of_lowercaseAfter [] t)

/-! ### Words in ASCII capitals -/

/-- Whether the character is in ASCII, no small letter, and no K. -/
def IsPlainCapital (c : Char) : Prop := c.toNat < 128 ∧ c.toUpper = c ∧ c ≠ 'K'

instance (c : Char) : Decidable (IsPlainCapital c) := inferInstanceAs (Decidable (_ ∧ _ ∧ _))

theorem lowercaseAfter_of_ascii (ascii : ∀ c ∈ t, c.toNat < 128) :
    lowercaseAfter before t = lower t := by
  induction t generalizing before with
  | nil => rfl
  | cons c cs ih =>
      rw [List.forall_mem_cons] at ascii
      have other : c ≠ 'Σ' := by
        rintro rfl
        exact absurd ascii.1 (by decide)
      rw [lowercaseAfter, if_neg other, lowercaseChar, if_pos ascii.1, ih ascii.2]
      rfl

theorem toUpper_toLower (ascii : c.toNat < 128) : c.toLower.toUpper = c.toUpper :=
  forall_ascii (P := fun c => c.toLower.toUpper = c.toUpper) (by decide +kernel) ascii

theorem IsPlainCapital.toLower (capital : IsPlainCapital c) :
    c.toLower.toNat < 128 ∧ c.toLower.toNat ≠ 0x6b :=
  forall_ascii
    (P := fun c => IsPlainCapital c → c.toLower.toNat < 128 ∧ c.toLower.toNat ≠ 0x6b)
    (by decide +kernel) capital.1 capital

theorem lowercaseChar_ne_nil (c : Char) : lowercaseChar c ≠ [] := by
  unfold lowercaseChar
  split_ifs
  · simp
  · simp
  · split <;> simp

/-- A character whose lower case starts a word in lower case is the first of that word up to the
case of ASCII letters. -/
theorem toUpper_of_lowercaseChar {rest word : Text} (capital : IsPlainCapital d)
    (capitals : ∀ e ∈ word, IsPlainCapital e)
    (same : lowercaseChar c ++ rest = lower (d :: word)) :
    c.toUpper = d ∧ rest = lower word := by
  obtain ⟨bound, kelvin⟩ := capital.toLower
  unfold lowercaseChar at same
  split at same
  next ascii =>
    obtain ⟨here, later⟩ := List.cons.inj same
    refine ⟨?_, later⟩
    rw [← toUpper_toLower ascii, here, toUpper_toLower capital.1, capital.2.1]
  split at same
  next =>
    -- The point above the letter is not in ASCII.
    obtain ⟨-, later⟩ := List.cons.inj same
    cases word with
    | nil => cases later
    | cons e es =>
        obtain ⟨point, -⟩ := List.cons.inj later
        have bound' := (capitals e (by simp)).toLower.1
        rw [← point] at bound'
        exact absurd bound' (by decide)
  split at same
  next n found =>
    obtain ⟨here, -⟩ := List.cons.inj same
    obtain ⟨valid, -, -, range⟩ := small?_regular found
    rw [← here, toNat_ofNat valid] at bound kelvin
    omega
  next =>
    obtain ⟨here, -⟩ := List.cons.inj same
    rw [← here] at bound
    contradiction

theorem upper_of_lowercaseAfter_eq (capitals : ∀ c ∈ s, IsPlainCapital c)
    (same : lowercaseAfter before t = lower s) : upper t = s := by
  induction t generalizing before s with
  | nil =>
      cases s with
      | nil => rfl
      | cons d ds => cases same
  | cons c cs ih =>
      rw [lowercaseAfter] at same
      cases s with
      | nil =>
          obtain ⟨none, -⟩ := List.append_eq_nil_iff.mp same
          split_ifs at none
          exact absurd none (lowercaseChar_ne_nil c)
      | cons d ds =>
          rw [List.forall_mem_cons] at capitals
          have bound := capitals.1.toLower.1
          split_ifs at same
          · rw [← (List.cons.inj same).1] at bound
            exact absurd bound (by decide)
          · rw [← (List.cons.inj same).1] at bound
            exact absurd bound (by decide)
          · obtain ⟨here, later⟩ := toUpper_of_lowercaseChar capitals.1 capitals.2 same
            rw [upper, List.map_cons, here, ← upper, ih capitals.2 later]

/-- A text with the lower case of a word in ASCII capitals, no K among them, is that word up to the
case of ASCII letters. -/
theorem upper_of_lowercase_eq (capitals : ∀ c ∈ s, IsPlainCapital c)
    (same : lowercase t = lowercase s) : upper t = s := by
  have lower : lowercase s = lower s := lowercaseAfter_of_ascii fun c mem => (capitals c mem).1
  rw [lower] at same
  exact upper_of_lowercaseAfter_eq capitals same

end SqlGrader.Text
