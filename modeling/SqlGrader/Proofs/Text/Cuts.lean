import Mathlib.Data.List.Basic
import SqlGrader.Text.Basic
/-!
# Cuts at known places

A cut goes through the first or the last place of its delimiter. Where the text is put together from
parts that are free of the delimiter, the parts are what the cut gives back.
-/

namespace SqlGrader.Text

variable {c d : Char} {s t : Text}

/-- A cut at the first delimiter passes over a text without it. -/
theorem cutAt?_append (free : d ∉ s) (t : Text) :
    cutAt? d (s ++ t) = (cutAt? d t).map fun p => (s ++ p.1, p.2) := by
  induction s with
  | nil => simp
  | cons c cs ih =>
      rw [List.mem_cons, not_or] at free
      rw [List.cons_append, cutAt?, if_neg (Ne.symm free.1), ih free.2, Option.map_map]
      rfl

theorem cutAt?_cons_self (d : Char) (t : Text) : cutAt? d (d :: t) = some ([], t) := if_pos rfl

theorem cutAt?_eq_none (free : d ∉ t) : cutAt? d t = none := by
  have cut := cutAt?_append free []
  rwa [List.append_nil] at cut

theorem cutAt?_append_cons (free : d ∉ s) (t : Text) : cutAt? d (s ++ d :: t) = some (s, t) := by
  rw [cutAt?_append free, cutAt?_cons_self, Option.map_some, List.append_nil]

/-- Before the first delimiter character there is none. -/
theorem notMem_of_cutAt? {before after : Text} (found : cutAt? d t = some (before, after)) :
    d ∉ before := by
  induction t generalizing before with
  | nil => simp [cutAt?] at found
  | cons c cs ih =>
      rw [cutAt?] at found
      split at found
      next =>
        obtain ⟨rfl, -⟩ := Prod.mk.inj (Option.some.inj found)
        exact List.not_mem_nil
      next other =>
        obtain ⟨⟨front, rest⟩, inner, same⟩ := Option.map_eq_some_iff.1 found
        obtain ⟨rfl, rfl⟩ := Prod.mk.inj same
        exact List.not_mem_cons_of_ne_of_not_mem (Ne.symm other) (ih inner)

theorem notMem_of_cutAt?_eq_none (missing : cutAt? d t = none) : d ∉ t := by
  intro mem
  obtain ⟨front, after, rfl, free⟩ := List.eq_append_cons_of_mem mem
  rw [cutAt?_append_cons free] at missing
  cases missing

/-- A cut at the last delimiter does not see what stands before a delimiter. -/
theorem cutAtLast?_append_cons (d : Char) (s t : Text) :
    cutAtLast? d (s ++ d :: t) =
      some (((cutAtLast? d t).map fun p => (s ++ d :: p.1, p.2)).getD (s, t)) := by
  induction s with
  | nil =>
      rw [List.nil_append, cutAtLast?]
      cases cutAtLast? d t <;> simp
  | cons c cs ih =>
      rw [List.cons_append, cutAtLast?, ih]
      cases cutAtLast? d t <;> rfl

theorem cutAtLast?_eq_none (free : d ∉ t) : cutAtLast? d t = none := by
  induction t with
  | nil => rfl
  | cons c cs ih =>
      rw [List.mem_cons, not_or] at free
      rw [cutAtLast?, ih free.2]
      exact if_neg (Ne.symm free.1)

/-- A cut at the last delimiter gives the parts around one without a delimiter after it. -/
theorem cutAtLast?_append_cons_of_free (free : d ∉ t) (s : Text) :
    cutAtLast? d (s ++ d :: t) = some (s, t) := by
  rw [cutAtLast?_append_cons, cutAtLast?_eq_none free]
  rfl

/-- After the last delimiter character there is none. -/
theorem parts_of_cutAtLast? {before after : Text}
    (found : cutAtLast? d t = some (before, after)) : t = before ++ d :: after ∧ d ∉ after := by
  have mem : d ∈ t := by
    by_contra free
    rw [cutAtLast?_eq_none free] at found
    cases found
  obtain ⟨after', before', whole, free⟩ :=
    List.eq_append_cons_of_mem (List.mem_reverse.mpr mem)
  have whole' : t = before'.reverse ++ d :: after'.reverse := by
    simpa using congrArg List.reverse whole
  rw [whole', cutAtLast?_append_cons_of_free (by simpa using free)] at found
  obtain ⟨rfl, rfl⟩ := Prod.mk.inj (Option.some.inj found)
  exact ⟨whole', by simpa using free⟩

theorem dropStart?_append (s rest : Text) : dropStart? s (s ++ rest) = some rest := by
  induction s with
  | nil => simp [dropStart?]
  | cons c cs ih => simp [dropStart?, ih]

/-- A text is cut at a delimiter that stands in it. -/
theorem cut?_ne_none {sep t : Text} (part : sep <:+: t) : cut? sep t ≠ none := by
  induction t with
  | nil =>
      obtain rfl := List.infix_nil.mp part
      simp [cut?]
  | cons c cs ih =>
      simp only [cut?]
      split
      next => simp
      next other =>
        rcases List.infix_cons_iff.mp part with ⟨rest, start⟩ | inside
        · rw [← start, dropStart?_append] at other
          cases other
        · simpa using ih inside

/-- Before the first delimiter there is none. -/
theorem not_infix_of_cut? {sep before after : Text} (nonempty : sep ≠ [])
    (found : cut? sep t = some (before, after)) : ¬ sep <:+: before := by
  induction t generalizing before with
  | nil => simp [cut?, nonempty] at found
  | cons c cs ih =>
      have whole := eq_append_of_cut? found
      rw [cut?] at found
      split at found
      next =>
        obtain ⟨rfl, -⟩ := Prod.mk.inj (Option.some.inj found)
        simpa using nonempty
      next noStart =>
        obtain ⟨⟨front, rest⟩, inner, same⟩ := Option.map_eq_some_iff.1 found
        obtain ⟨rfl, rfl⟩ := Prod.mk.inj same
        intro part
        rcases List.infix_cons_iff.1 part with ⟨more, start⟩ | later
        · rw [whole, ← start, List.append_assoc, List.append_assoc, dropStart?_append] at noStart
          cases noStart
        · exact ih inner later

/-- A delimiter whose first character does not come again in it does not begin within a text that
holds none and goes on with one. -/
theorem cut?_append_of_free {ds : Text} (lone : d ∉ ds) (free : ¬ d :: ds <:+: s) (t : Text) :
    cut? (d :: ds) (s ++ (d :: ds ++ t)) = some (s, t) := by
  induction s with
  | nil => rw [List.nil_append, List.cons_append, cut?, ← List.cons_append, dropStart?_append]
  | cons c cs ih =>
      have noStart : dropStart? (d :: ds) (c :: (cs ++ (d :: ds ++ t))) = none := by
        refine Option.eq_none_iff_forall_not_mem.2 fun rest found => ?_
        obtain ⟨rfl, same⟩ := List.cons.inj (eq_append_of_dropStart? found)
        have within : ds <+: cs ++ [c] ++ (ds ++ t) := ⟨rest, by simpa using same.symm⟩
        rcases List.prefix_or_prefix_of_prefix within (List.prefix_append ..) with short | long
        · rcases List.prefix_concat_iff.1 short with rfl | short
          · exact lone (by simp)
          · exact free (List.cons_prefix_cons.2 ⟨rfl, short⟩).isInfix
        · exact lone (long.subset (by simp))
      have free' : ¬ d :: ds <:+: cs :=
        fun inside => free (inside.trans (List.suffix_cons c cs).isInfix)
      rw [List.cons_append, cut?, noStart, ih free']
      rfl

/-- No mark `://` begins within a text that holds none and goes on with one. -/
theorem cut?_mark (free : ¬ [':', '/', '/'] <:+: s) (t : Text) :
    cut? [':', '/', '/'] (s ++ ':' :: '/' :: '/' :: t) = some (s, t) :=
  cut?_append_of_free (by decide) free t

/-! ### Pieces between delimiters -/

theorem splitAt_ne_nil (d : Char) (t : Text) : splitAt d t ≠ [] := by
  cases t with
  | nil => simp [splitAt]
  | cons c cs =>
      rw [splitAt]
      split
      · simp
      · split <;> simp

theorem splitAt_eq_self (free : d ∉ t) : splitAt d t = [t] := by
  induction t with
  | nil => rfl
  | cons c cs ih =>
      rw [List.mem_cons, not_or] at free
      rw [splitAt, if_neg (Ne.symm free.1), ih free.2]

/-- The pieces hold no delimiter. -/
theorem notMem_of_mem_splitAt {piece : Text} (mem : piece ∈ splitAt d t) : d ∉ piece := by
  induction t generalizing piece with
  | nil => simp_all [splitAt]
  | cons c cs ih =>
      rw [splitAt] at mem
      split at mem
      next =>
        rcases List.mem_cons.mp mem with rfl | mem
        · exact List.not_mem_nil
        · exact ih mem
      next other =>
        obtain ⟨first, pieces, whole⟩ := List.exists_cons_of_ne_nil (splitAt_ne_nil d cs)
        rw [whole] at ih mem
        rcases List.mem_cons.mp mem with rfl | mem
        · exact List.not_mem_cons_of_ne_of_not_mem (Ne.symm other) (ih List.mem_cons_self)
        · exact ih (List.mem_cons_of_mem _ mem)

theorem splitAt_append_cons (d : Char) (s t : Text) :
    splitAt d (s ++ d :: t) = splitAt d s ++ splitAt d t := by
  induction s with
  | nil => simp [splitAt]
  | cons c cs ih =>
      rw [List.cons_append, splitAt, splitAt, ih]
      split
      · rfl
      · obtain ⟨piece, pieces, whole⟩ := List.exists_cons_of_ne_nil (splitAt_ne_nil d cs)
        rw [whole, List.cons_append]
        rfl

theorem joinWith_cons_of_ne_nil {ts : List Text} (more : ts ≠ []) (sep t : Text) :
    joinWith sep (t :: ts) = t ++ sep ++ joinWith sep ts := by
  cases ts with
  | nil => exact absurd rfl more
  | cons u us => rfl

/-- Texts with a delimiter between them fall into their pieces. -/
theorem splitAt_joinWith {ts : List Text} (nonempty : ts ≠ []) :
    splitAt d (joinWith [d] ts) = ts.flatMap (splitAt d) := by
  induction ts with
  | nil => exact absurd rfl nonempty
  | cons t ts ih =>
      cases ts with
      | nil => simp [joinWith]
      | cons u us =>
          rw [joinWith_cons_of_ne_nil (by simp), List.append_assoc, List.singleton_append,
            splitAt_append_cons, ih (by simp)]
          simp only [List.flatMap_cons]

/-- Pieces that hold no delimiter are found again. -/
theorem splitAt_joinWith_of_free {ts : List Text} (nonempty : ts ≠ [])
    (free : ∀ t ∈ ts, d ∉ t) : splitAt d (joinWith [d] ts) = ts := by
  rw [splitAt_joinWith nonempty, List.flatMap_congr fun t mem => splitAt_eq_self (free t mem)]
  exact List.flatMap_singleton' ts

end SqlGrader.Text
