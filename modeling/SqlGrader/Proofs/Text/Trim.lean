import SqlGrader.Text.Basic
import Mathlib.Data.List.DropRight
/-!
# Trimmed texts

Trimming looks at the ends of a text only. A text that neither starts nor ends
with white space stays as it is, and white space around it is dropped.
-/

namespace SqlGrader.Text

variable {t : Text}

theorem dropEndWhile_eq (p : Char → Bool) (t : Text) : dropEndWhile p t = t.rdropWhile p :=
  rfl

/-- The text starts and ends with something else than white space. -/
structure Trimmed (t : Text) : Prop where
  head : ∀ c ∈ t.head?, ¬ isBlank c
  last : ∀ c ∈ t.getLast?, ¬ isBlank c

theorem trimStart_eq_self (head : ∀ c ∈ t.head?, ¬ isBlank c) : trimStart t = t := by
  refine List.dropWhile_eq_self_iff.mpr fun nonempty => head _ ?_
  exact List.head?_eq_getElem? ▸ List.getElem?_eq_getElem nonempty

theorem dropEndWhile_eq_self {p : Char → Bool} (last : ∀ c ∈ t.getLast?, ¬ p c) :
    dropEndWhile p t = t :=
  List.rdropWhile_eq_self_iff.mpr fun nonempty => last _ (List.getLast?_eq_some_getLast nonempty)

theorem Trimmed.trim (trimmed : Trimmed t) : trim t = t := by
  rw [Text.trim, trimStart_eq_self trimmed.head, trimEnd, dropEndWhile_eq_self trimmed.last]

theorem trim_blank_cons {c : Char} (blank : isBlank c) (t : Text) :
    Text.trim (c :: t) = Text.trim t := by
  rw [Text.trim, Text.trim, trimStart, trimStart, List.dropWhile_cons_of_pos blank]

@[simp] theorem trim_space_cons (t : Text) : Text.trim (' ' :: t) = Text.trim t :=
  trim_blank_cons (by decide) t

theorem trim_append_blank {c : Char} (blank : isBlank c) (t : Text) :
    Text.trim (t ++ [c]) = Text.trim t := by
  rw [Text.trim, Text.trim, trimStart, trimStart, List.dropWhile_append, trimEnd, trimEnd,
    dropEndWhile_eq, dropEndWhile_eq]
  split
  next none =>
    have empty : t.dropWhile isBlank = [] := List.isEmpty_iff.mp none
    rw [empty, List.dropWhile_cons_of_pos blank]
    rfl
  next => rw [List.rdropWhile_concat_pos _ _ _ blank]

theorem trim_append_blanks {blanks : Text} (all : ∀ c ∈ blanks, isBlank c) (t : Text) :
    Text.trim (t ++ blanks) = Text.trim t := by
  induction blanks using List.reverseRecOn with
  | nil => rw [List.append_nil]
  | append_singleton blanks c ih =>
      rw [← List.append_assoc, trim_append_blank (all c (by simp)),
        ih fun d mem => all d (by simp [mem])]

/-- Behind a character that is no white space only what follows is trimmed at the end. -/
theorem trimEnd_append {x : Text} (last : ∀ c ∈ x.getLast?, ¬ isBlank c) (t : Text) :
    trimEnd (x ++ t) = x ++ trimEnd t := by
  simp only [trimEnd, dropEndWhile_eq]
  induction t using List.reverseRecOn with
  | nil =>
      rw [List.append_nil, List.rdropWhile_nil, List.append_nil]
      exact dropEndWhile_eq_self last
  | append_singleton t c ih =>
      rw [← List.append_assoc]
      by_cases blank : isBlank c
      · rw [List.rdropWhile_concat_pos _ _ _ blank, List.rdropWhile_concat_pos _ _ _ blank, ih]
      · rw [List.rdropWhile_concat_neg _ _ _ blank, List.rdropWhile_concat_neg _ _ _ blank,
          List.append_assoc]

/-- Trimming keeps everything that is no white space. -/
theorem filter_trim (t : Text) : (trim t).filter (!isBlank ·) = t.filter (!isBlank ·) := by
  have blanks {s : Text} (all : ∀ c ∈ s, isBlank c) : s.filter (!isBlank ·) = [] :=
    List.filter_eq_nil_iff.mpr fun c mem => by simp [all c mem]
  have front (t : Text) : (trimStart t).filter (!isBlank ·) = t.filter (!isBlank ·) := by
    have parts : t.takeWhile isBlank ++ trimStart t = t := List.takeWhile_append_dropWhile
    conv_rhs => rw [← parts, List.filter_append, blanks fun c mem => List.mem_takeWhile_imp mem,
      List.nil_append]
  have back (t : Text) : (trimEnd t).filter (!isBlank ·) = t.filter (!isBlank ·) := by
    have parts : trimEnd t ++ t.rtakeWhile isBlank = t := List.rdropWhile_append_rtakeWhile
    conv_rhs => rw [← parts, List.filter_append, blanks fun c mem => List.mem_rtakeWhile_imp mem,
      List.append_nil]
  rw [trim, back, front]

end SqlGrader.Text
