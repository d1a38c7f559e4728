import SqlGrader.Proofs.Text.Case
/-!
# The runs of a text

The runs of a text are the only cut of it into maximal stretches of one class.
Changing the case of letters run by run therefore keeps the runs where they are.
-/

namespace SqlGrader.Run

variable {r : Run} {rs : List Run} {c : Char}

/-- Runs that are not empty, of one class each, and of the other class than
their neighbours. -/
def Maximal : List Run → Prop
  | [] => True
  | r :: rs =>
    r.text ≠ [] ∧ (∀ c ∈ r.text, Text.isWordChar c = r.isWord) ∧
      (∀ n ∈ rs.head?, n.isWord ≠ r.isWord) ∧ Maximal rs

theorem isWordChar_toUpper (c : Char) : Text.isWordChar c.toUpper = Text.isWordChar c := by
  obtain same | ⟨small, capital, low, low', -⟩ := Text.toUpper_cases c
  · rw [same]
  · simp [Text.isWordChar, Char.isAlphanum, Text.isAlpha_iff.mpr (.inl capital),
      Text.isAlpha_iff.mpr (.inr small), low, low']

theorem maximal_push (maximal : Maximal rs) (c : Char) : Maximal (push c rs) := by
  cases rs with
  | nil => simp [push, Maximal]
  | cons r rs =>
      obtain ⟨nonempty, pure, turns, rest⟩ := maximal
      simp only [push]
      split
      next same =>
        refine ⟨List.cons_ne_nil _ _, ?_, turns, rest⟩
        intro d mem
        rcases List.mem_cons.mp mem with rfl | mem
        · exact same.symm
        · exact pure d mem
      next other =>
        refine ⟨List.cons_ne_nil _ _, ?_, ?_, nonempty, pure, turns, rest⟩
        · simp
        · simpa using other

theorem maximal_ofText (t : Text) : Maximal (ofText t) := by
  induction t with
  | nil => trivial
  | cons c cs ih => exact maximal_push ih c

/-- A maximal run in front of the runs of a text is a run of both together. -/
theorem ofText_append {t text : Text} {isWord : Bool} (nonempty : text ≠ [])
    (pure : ∀ c ∈ text, Text.isWordChar c = isWord)
    (turns : ∀ n ∈ (ofText t).head?, n.isWord ≠ isWord) :
    ofText (text ++ t) = ⟨isWord, text⟩ :: ofText t := by
  induction text with
  | nil => exact absurd rfl nonempty
  | cons c cs ih =>
      have here := pure c (List.mem_cons_self ..)
      rw [List.cons_append, ofText]
      cases cs with
      | nil =>
          cases runs : ofText t with
          | nil => simp [push, runs, here]
          | cons n rs =>
              have other : n.isWord ≠ isWord := turns n (by simp [runs])
              simp [push, runs, here, other]
      | cons d ds =>
          rw [ih (List.cons_ne_nil _ _) fun e mem => pure e (List.mem_cons_of_mem c mem)]
          simp [push, here]

/-- Maximal runs are the runs of their text. -/
theorem ofText_toText (maximal : Maximal rs) : ofText (toText rs) = rs := by
  induction rs with
  | nil => rfl
  | cons r rs ih =>
      obtain ⟨nonempty, pure, turns, rest⟩ := maximal
      have whole : toText (r :: rs) = r.text ++ toText rs := rfl
      rw [whole, ofText_append nonempty pure (by rwa [ih rest]), ih rest]

theorem maximal_map {f : Run → Run} (class_eq : ∀ r, (f r).isWord = r.isWord)
    (text : ∀ r, Text.upper (f r).text = Text.upper r.text) (maximal : Maximal rs) :
    Maximal (rs.map f) := by
  induction rs with
  | nil => trivial
  | cons r rs ih =>
      obtain ⟨nonempty, pure, turns, rest⟩ := maximal
      refine ⟨?_, ?_, ?_, ih rest⟩
      · intro none
        have same := text r
        rw [none] at same
        exact nonempty (by simpa [Text.upper] using same.symm)
      · intro d mem
        have capital : d.toUpper ∈ Text.upper r.text := by
          rw [← text r]
          exact List.mem_map_of_mem mem
        obtain ⟨c, mem', same⟩ := List.mem_map.mp capital
        rw [class_eq, ← pure c mem', ← isWordChar_toUpper, ← same, isWordChar_toUpper]
      · intro n mem
        rw [List.head?_map, Option.mem_def, Option.map_eq_some_iff] at mem
        obtain ⟨n', mem', rfl⟩ := mem
        rw [class_eq, class_eq]
        exact turns n' mem'

end SqlGrader.Run
