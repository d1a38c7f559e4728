import SqlGrader.Proofs.Sql.Neighbours
import SqlGrader.Proofs.Text.Lowercase
/-!
# Names and their renaming

A name is an unquoted word that is no keyword. To rename it is to put another name
in the place of every unquoted word that is the name, letter case aside. No word
that the parts of a statement are found by is renamed or comes up, so renaming is
a neutral change. Aliases are renamed where they are the last token.
-/

namespace SqlGrader

open Token Lexer

variable {x y : Text} {t : Token} {ts us : List Token} {w : String}

/-- An unquoted name: a word, and none of those with a fixed meaning. -/
structure IsName (x : Text) : Prop where
  start : x.head?.any isNameStart
  parts : ∀ c ∈ x.tail, isNamePart c
  free : Keyword.isFoldable x = false

instance (x : Text) : Decidable (IsName x) :=
  decidable_of_iff
    (x.head?.any isNameStart ∧ x.tail.all isNamePart ∧ Keyword.isFoldable x = false)
    ⟨fun ⟨start, parts, free⟩ => ⟨start, List.all_eq_true.mp parts, free⟩,
      fun ⟨start, parts, free⟩ => ⟨start, List.all_eq_true.mpr parts, free⟩⟩

/-! ### Names and keywords -/

theorem Keyword.structural_reserved (known : w ∈ structural) :
    w ∈ reserved ∧ ∀ c ∈ w.toList, Text.IsPlainCapital c := by
  have all : structural.all fun w =>
      decide (w ∈ reserved) && w.toList.all fun c => decide (Text.IsPlainCapital c) := by
    decide +kernel
  simpa using List.all_eq_true.mp all w known

namespace IsName

theorem upper_ne (name : IsName x) (known : w ∈ Keyword.structural) :
    Text.upper x ≠ w.toList := by
  intro same
  have reserved : Keyword.isReserved x :=
    List.any_eq_true.mpr ⟨w, (Keyword.structural_reserved known).1, by simp [same]⟩
  have foldable : Keyword.isFoldable x = true := by simp [Keyword.isFoldable, reserved]
  rw [name.free] at foldable
  cases foldable

theorem lowercase_ne (name : IsName x) (known : w ∈ Keyword.structural) :
    Text.lowercase x ≠ Text.lowercase w.toList := fun same =>
  name.upper_ne known (Text.upper_of_lowercase_eq (Keyword.structural_reserved known).2 same)

theorem ne_dot (name : IsName x) : Text.lowercase x ≠ Text.lowercase ['.'] := by
  intro same
  have upper : Text.upper x = ['.'] :=
    Text.upper_of_lowercase_eq (List.forall_mem_singleton.mpr (by decide)) same
  have start := name.start
  cases x with
  | nil => cases upper
  | cons c cs =>
      obtain ⟨point, -⟩ := List.cons.inj upper
      obtain rfl := (Text.toUpper_eq_iff (d := '.') (by decide)).mp point
      have other : isNameStart '.' = false := by decide
      rw [List.head?_cons, Option.any_some, other] at start
      cases start

/-- An unquoted name can be an alias without `AS`. -/
theorem standsAlone (name : IsName x) (t : Token) : Alias.standsAlone { t with text := x } := by
  have free := name.free
  simp only [Keyword.isFoldable, Bool.or_eq_false_iff] at free
  simp [Alias.standsAlone, free.1.1, free.1.2]

end IsName

namespace Token

/-- Whether the token is the name `x`, letter case and double quotes aside. -/
def Names (x : Text) (t : Token) : Prop := Text.lowercase (Alias.nameOf t) = Text.lowercase x

instance (x : Text) (t : Token) : Decidable (t.Names x) := inferInstanceAs (Decidable (_ = _))

/-- The token, with the name `y` if it is the unquoted name `x`. -/
def renamed (x y : Text) (t : Token) : Token :=
  if t.kind = .word ∧ t.Names x then { t with text := y } else t

theorem names_of_word (word : t.kind = .word) :
    t.Names x ↔ Text.lowercase t.text = Text.lowercase x := by
  simp [Names, Alias.nameOf, word]

theorem renamed_of_names (word : t.kind = .word) (names : t.Names x) :
    t.renamed x y = { t with text := y } := if_pos ⟨word, names⟩

theorem renamed_of_not_names (other : ¬ t.Names x) : t.renamed x y = t :=
  if_neg fun both => other both.2

@[simp] theorem kind_renamed (x y : Text) (t : Token) : (t.renamed x y).kind = t.kind := by
  unfold renamed
  split <;> rfl

@[simp] theorem spaced_renamed (x y : Text) (t : Token) : (t.renamed x y).spaced = t.spaced := by
  unfold renamed
  split <;> rfl

theorem map_renamed_of_absent (absent : ∀ t ∈ ts, ¬ t.Names x) : ts.map (renamed x y) = ts :=
  (List.map_congr_left fun t mem => renamed_of_not_names (absent t mem)).trans (List.map_id ts)

/-- No keyword that the parts of a statement are found by is a name. -/
theorem not_names_of_isWord (name : IsName x) (known : w ∈ Keyword.structural)
    (word : t.isWord w) : ¬ t.Names x := by
  rw [names_of_word (kind_of_isWord word), ← Text.lowercase_upper, upper_of_isWord word]
  exact fun same => name.lowercase_ne known same.symm

theorem not_names_of_isAnyWord (name : IsName x) {ws : List String}
    (known : ∀ w ∈ ws, w ∈ Keyword.structural) (word : t.isAnyWord ws) : ¬ t.Names x := by
  obtain ⟨w, mem, here⟩ := List.any_eq_true.mp word
  exact not_names_of_isWord name (known w mem) here

/-- Renaming keeps the parts of a statement where they are. -/
theorem neutral_renamed (first : IsName x) (second : IsName y) : Neutral (renamed x y) := by
  refine ⟨kind_renamed x y, fun t w known => ?_, fun t => ?_, fun t => ?_, fun t => ?_⟩
  · by_cases named : t.kind = .word ∧ t.Names x
    · have other : t.isWord w = false :=
        Bool.eq_false_iff.mpr fun word => not_names_of_isWord first known word named.2
      rw [other, renamed_of_names named.1 named.2]
      simp [isWord, second.upper_ne known]
    · rw [renamed, if_neg named]
  · by_cases named : t.kind = .word ∧ t.Names x
    · have noPoint : ∀ z, Text.lowercase z ≠ Text.lowercase ['.'] → (z == ['.']) = false := by
        intro z other
        rw [beq_eq_false_iff_ne]
        rintro rfl
        exact other rfl
      have text := (names_of_word named.1).mp named.2
      rw [renamed_of_names named.1 named.2, Scope.isDot, Scope.isDot, noPoint y second.ne_dot,
        noPoint t.text (text ▸ first.ne_dot)]
    · rw [renamed, if_neg named]
  · by_cases named : t.kind = .word ∧ t.Names x
    · have other : (TokenKind.word == TokenKind.symbol) = false := rfl
      rw [renamed_of_names named.1 named.2]
      simp [NormalForm.isTerminator, named.1, other]
    · rw [renamed, if_neg named]
  · exact (apply_ite unspaced (t.kind = .word ∧ t.Names x) { t with text := y } t).symm

/-! ### Aliases -/

/-- Whether the tokens hold the name `x` only as the alias at their end, unquoted. -/
structure OnlyAlias (x : Text) (ts : List Token) : Prop where
  body : ∀ t ∈ (Alias.splitEnd ts).1, ¬ t.Names x
  word : ∀ t ∈ ts, t.Names x → t.kind = .word

instance (x : Text) (ts : List Token) : Decidable (OnlyAlias x ts) :=
  decidable_of_iff
    ((∀ t ∈ (Alias.splitEnd ts).1, ¬ t.Names x) ∧ ∀ t ∈ ts, t.Names x → t.kind = .word)
    ⟨fun ⟨body, word⟩ => ⟨body, word⟩, fun ⟨body, word⟩ => ⟨body, word⟩⟩

/-- Whether the name `x` stands at the end of the tokens, if at all, and is the alias there. -/
def Ends (x : Text) (ts : List Token) : Prop :=
  ∀ last before rest, ts.reverse = last :: before :: rest → Alias.isName last →
    ¬ before.Names x ∧ (last.Names x → last.kind = .word ∧ (Alias.splitEnd ts).2.isSome)

end Token

/-- An alias, with the name `y` for the name `x`. -/
def Alias.renamed (x y a : Text) : Text :=
  if Text.lowercase a = Text.lowercase x then Text.lowercase y else a

/-- A projection item with its alias renamed. -/
def ProjectionItem.renamed (x y : Text) (i : ProjectionItem) : ProjectionItem :=
  { i with aliasName := i.aliasName.map (Alias.renamed x y) }

/-- A table reference with its alias renamed. -/
def TableRef.renamed (x y : Text) (r : TableRef) : TableRef :=
  { r with aliasName := r.aliasName.map (Alias.renamed x y) }

namespace Token

theorem nameOf_renamed (word : t.Names x → t.kind = .word) :
    Alias.nameOf (t.renamed x y) = Alias.renamed x y (Alias.nameOf t) := by
  unfold Alias.renamed
  by_cases names : t.Names x
  · rw [renamed_of_names (word names) names, if_pos (show Text.lowercase _ = _ from names)]
    simp [Alias.nameOf, word names]
  · rw [renamed_of_not_names names, if_neg (show ¬ Text.lowercase _ = _ from names)]

theorem splitEnd_of_reverse {last before : Token} {rest : List Token}
    (ends : ts.reverse = last :: before :: rest) :
    Alias.splitEnd ts =
      if !Alias.isName last then (ts, none)
      else if before.isWord "AS" && !rest.isEmpty then (rest.reverse, some (Alias.nameOf last))
      else if Alias.standsAlone last && Alias.endsExpression before then
        ((before :: rest).reverse, some (Alias.nameOf last))
      else (ts, none) := by
  rw [Alias.splitEnd, ends]

/-- An alias is the name that a token gives. -/
theorem exists_of_splitEnd {a : Text} (found : (Alias.splitEnd ts).2 = some a) :
    ∃ t ∈ ts, a = Alias.nameOf t := by
  match reversed : ts.reverse with
  | [] | [_] =>
      rw [Alias.splitEnd, reversed] at found
      cases found
  | last :: before :: rest =>
      refine ⟨last, List.mem_reverse.mp (by simp [reversed]), ?_⟩
      rw [splitEnd_of_reverse reversed] at found
      split_ifs at found
      · exact (Option.some.inj found).symm
      · exact (Option.some.inj found).symm

/-- The new name stands alone where the old one does. -/
theorem standsAlone_renamed {ends : Bool} (second : IsName y)
    (alone : t.Names x → t.kind = .word ∧ Alias.standsAlone t && ends) :
    (Alias.standsAlone (t.renamed x y) && ends) = (Alias.standsAlone t && ends) := by
  by_cases here : t.Names x
  · obtain ⟨word, both⟩ := alone here
    rw [renamed_of_names word here, second.standsAlone, both, (Bool.and_eq_true_iff.mp both).2]
    rfl
  · rw [renamed_of_not_names here]

/-- Renaming goes through the cut between an expression and its alias. -/
theorem splitEnd_map_renamed (second : IsName y) (ends : Ends x ts) :
    Alias.splitEnd (ts.map (renamed x y)) =
      ((Alias.splitEnd ts).1.map (renamed x y), (Alias.splitEnd ts).2.map (Alias.renamed x y)) := by
  match reversed : ts.reverse with
  | [] =>
      obtain rfl := List.reverse_eq_nil_iff.mp reversed
      rfl
  | [t] =>
      obtain rfl : ts = [t] := List.reverse_eq_iff.mp reversed
      rfl
  | last :: before :: rest =>
      have found := splitEnd_of_reverse reversed
      have reversed' : (ts.map (renamed x y)).reverse =
          last.renamed x y :: before.renamed x y :: rest.map (renamed x y) := by
        rw [← List.map_reverse, reversed]
        rfl
      have name : Alias.isName (last.renamed x y) = Alias.isName last := by
        rw [Alias.isName, kind_renamed, Alias.isName]
      rw [splitEnd_of_reverse reversed', name]
      by_cases named : Alias.isName last
      · obtain ⟨other, alone⟩ := ends last before rest reversed named
        rw [renamed_of_not_names other, List.isEmpty_map, nameOf_renamed fun here => (alone here).1]
        simp only [named, Bool.not_true, Bool.false_eq_true, if_false] at found ⊢
        by_cases as : before.isWord "AS" && !rest.isEmpty
        · rw [if_pos as] at found ⊢
          simp [found]
        · rw [if_neg as] at found ⊢
          have both : last.Names x →
              last.kind = .word ∧ Alias.standsAlone last && Alias.endsExpression before := by
            intro here
            obtain ⟨word, isAlias⟩ := alone here
            refine ⟨word, ?_⟩
            by_contra neither
            rw [found, if_neg neither] at isAlias
            cases isAlias
          rw [standsAlone_renamed second both]
          split at found
          next both => simp [found, both, renamed_of_not_names other]
          next none => simp [found, none]
      · simp only [named, Bool.not_false, if_true] at found ⊢
        simp [found]

theorem splitEnd_none_or_front {last before : Token} {rest : List Token}
    (reversed : ts.reverse = last :: before :: rest) (name : IsName x) :
    Alias.splitEnd ts = (ts, none) ∨
      ((Alias.splitEnd ts).2.isSome ∧ (before ∈ (Alias.splitEnd ts).1 ∨ ¬ before.Names x)) := by
  have found := splitEnd_of_reverse reversed
  split at found
  · exact .inl found
  split at found
  next as =>
    have word := (Bool.and_eq_true_iff.mp as).1
    rw [found]
    exact .inr ⟨rfl, .inr (not_names_of_isWord name (by decide) word)⟩
  split at found
  · rw [found]
    exact .inr ⟨rfl, .inl (by simp)⟩
  · exact .inl found

theorem OnlyAlias.ends (only : OnlyAlias x ts) (name : IsName x) : Ends x ts := by
  intro last before rest reversed named
  have mem : last ∈ ts ∧ before ∈ ts := by
    constructor
    · exact List.mem_reverse.mp (by simp [reversed])
    · exact List.mem_reverse.mp (by simp [reversed])
  have body := only.body
  rcases splitEnd_none_or_front reversed name with none | ⟨isAlias, front⟩
  · rw [none] at body
    exact ⟨body before mem.2, fun here => absurd here (body last mem.1)⟩
  · exact ⟨front.elim (body before) id, fun here => ⟨only.word last mem.1 here, isAlias⟩⟩

/-! ### Qualifiers and references -/

/-- Whether the token is not the name `x`, or is it as a qualifier. -/
def IsQualifier (x : Text) (before : Option Token) (t : Token) (after : Option Token) : Prop :=
  t.Names x → t.kind = .word ∧ ¬ before.any Scope.isDot ∧ after.any Scope.isDot

/-- Whether the token is not the name `x`, or is it where a reference to a projection alias may
stand. -/
def IsReference (x : Text) (before : Option Token) (t : Token) (after : Option Token) : Prop :=
  t.Names x → t.kind = .word ∧ ¬ before.any Scope.isDot ∧ ¬ after.any Scope.isDot ∧
    after.all (·.kind != .openParen)

instance (x : Text) (before : Option Token) (t : Token) (after : Option Token) :
    Decidable (IsQualifier x before t after) := inferInstanceAs (Decidable (_ → _))

instance (x : Text) (before : Option Token) (t : Token) (after : Option Token) :
    Decidable (IsReference x before t after) := inferInstanceAs (Decidable (_ → _))

theorem local_isQualifier (x : Text) : Local (IsQualifier x) := by
  constructor
  · intro before t after here names
    obtain ⟨word, -, point⟩ := here names
    exact ⟨word, by simp, point⟩
  · intro before t u noPoint here names
    exact absurd (here names).2.2 noPoint

theorem local_isReference (x : Text) : Local (IsReference x) := by
  constructor
  · intro before t after here names
    obtain ⟨word, -, alone⟩ := here names
    exact ⟨word, by simp, alone⟩
  · intro before t u _ here names
    obtain ⟨word, front, -⟩ := here names
    exact ⟨word, front, by simp, by simp⟩

/-- Tokens in which the name `x` is only a qualifier. -/
abbrev Qualifies (x : Text) (ts : List Token) : Prop := Throughout (IsQualifier x) none ts

/-- Tokens in which the name `x` is only a reference. -/
abbrev Refers (x : Text) (ts : List Token) : Prop := Throughout (IsReference x) none ts

theorem Qualifies.atStart (qualifies : Qualifies x ts) : Qualifies x (atStart ts) :=
  Throughout.atStart (fun _ _ _ here => here) (fun _ _ _ here => here) qualifies

theorem Qualifies.ends (qualifies : Qualifies x ts) (clean : Clean ts) : Ends x ts := by
  intro last before rest reversed named
  have whole : ts = rest.reverse ++ [before, last] := by
    rw [← List.reverse_reverse ts, reversed]
    simp
  have mem : last ∈ ts := by simp [whole]
  rw [whole] at qualifies
  obtain ⟨here, there, -⟩ := qualifies.append_right (local_isQualifier x)
  constructor
  · intro names
    have symbol := clean.kind_of_isDot mem (here names).2.2
    simp [Alias.isName, symbol] at named
  · intro names
    have point := (there names).2.2
    cases point

end Token

end SqlGrader
