import SqlGrader.Proofs.Sql.Neighbours
import SqlGrader.Proofs.Sql.SectionEdits
import SqlGrader.Proofs.Sql.TopLevel
import SqlGrader.Proofs.Text.Cuts
/-!
# The word ASC

`ASC` opens no section and ends no query, so it may be written anywhere in an ordering. In the
canonical text of a sort item it is the word at the end, and there it is taken off.
-/

namespace SqlGrader

open Token

/-! ### What the scan makes of it -/

/-- Whether the second list is the first one with words `ASC` in it, whatever the gaps are. -/
inductive Ascends : List Token → List Token → Prop
  | nil : Ascends [] []
  | keep {t u : Token} {ts us : List Token} (same : u.unspaced = t.unspaced)
      (later : Ascends ts us) : Ascends (t :: ts) (u :: us)
  | word {t : Token} {ts us : List Token} (asc : t.isWord "ASC") (later : Ascends ts us) :
      Ascends ts (t :: us)

namespace Ascends

variable {ts us ts' us' : List Token}

theorem refl (ts : List Token) : Ascends ts ts := by
  induction ts with
  | nil => exact .nil
  | cons t ts ih => exact .keep rfl ih

theorem append (front : Ascends ts us) (back : Ascends ts' us') :
    Ascends (ts ++ ts') (us ++ us') := by
  induction front with
  | nil => exact back
  | keep same _ ih => exact .keep same ih
  | word asc _ ih => exact .word asc ih

theorem eq_nil (ascends : Ascends ts []) : ts = [] := by
  cases ascends
  rfl

/-- Gaps do not matter. -/
theorem congr (ascends : Ascends ts us) (left : ts'.map unspaced = ts.map unspaced)
    (right : us'.map unspaced = us.map unspaced) : Ascends ts' us' := by
  induction ascends generalizing ts' us' with
  | nil =>
      rw [List.map_eq_nil_iff.mp left, List.map_eq_nil_iff.mp right]
      exact .nil
  | keep same _ ih =>
      obtain ⟨t', ts', rfl, here, left⟩ := List.map_eq_cons_iff.mp left
      obtain ⟨u', us', rfl, there, right⟩ := List.map_eq_cons_iff.mp right
      exact .keep (there.trans (same.trans here.symm)) (ih left right)
  | word asc _ ih =>
      obtain ⟨u', us', rfl, there, right⟩ := List.map_eq_cons_iff.mp right
      refine .word ?_ (ih left right)
      rw [← cosmetic_unspaced.isWord, there, cosmetic_unspaced.isWord]
      exact asc

end Ascends

/-- Where no table is listed, a boundary reaches one token beyond its first one, to a `BY`. -/
theorem Boundary.at?_eq_none_of_next {current : Option Slot} {t : Token} {ts us : List Token}
    (noTables : listsTables current = false)
    (next : us.head?.any (·.isWord "BY") → ts.head?.any (·.isWord "BY"))
    (closed : at? current t ts = none) : at? current t us = none := by
  refine Option.eq_none_iff_forall_not_mem.mpr fun b opens => ?_
  obtain ⟨opening, ⟨rest, whole⟩, words⟩ := at?_eq_some_iff.mp opens
  have alone {u : Token} (single : Opening current b [u]) (whole : [u] ++ rest = t :: us) :
      False := by
    obtain ⟨rfl, -⟩ := List.cons.inj whole
    have found := single.at? ts
    rw [List.nil_append, closed] at found
    cases found
  cases words with
  | select word => exact alone (.select word) whole
  | sole known word => exact alone (.sole known word) whole
  | rows known word outside => exact alone (.rows known word outside) whole
  | window word => exact alone (.window word) whole
  | before known word follows =>
      obtain ⟨rfl, rfl⟩ := List.cons.inj whole
      obtain ⟨v, first, isBy⟩ := (Option.any_eq_true _ _).mp (next (by simpa using follows))
      obtain ⟨rest', rfl⟩ := List.head?_eq_some_iff.mp first
      have opens' : Opening current _ [_, v] := .before known word isBy
      have found := opens'.at? rest'
      rw [List.singleton_append, closed] at found
      cases found
  | join all word among =>
      obtain rfl := among.resolve_right (by simp [noTables])
      exact alone (.join all word (.inl rfl)) whole

namespace Section

variable {t : Token} {ts us post : List Token} {current : Option Slot}

/-- `ASC` opens nothing. -/
theorem at?_ascending (asc : t.isWord "ASC") (ts : List Token) :
    Boundary.at? current t ts = none := by
  have other : ∀ w ∈ Boundary.openingWords, ("ASC" == w) = false := by decide
  exact at?_of_not_opening (fun w known => by rw [isWord_eq asc, other w known]) ts

theorem endsQuery_ascending (asc : t.isWord "ASC") : endsQuery t = false := by
  have noSymbol : (t.kind == .symbol) = false := by simp [kind_of_isWord asc]
  rw [endsQuery, NormalForm.isTerminator, noSymbol, isAnyWord_eq asc]
  rfl

theorem isBy_of_ascends (ascends : Ascends ts us) (gap : Bool)
    (isBy : (us ++ marked gap post).head?.any (·.isWord "BY")) :
    (ts ++ post).head?.any (·.isWord "BY") := by
  cases ascends with
  | nil => cases post <;> exact isBy
  | @keep t u ts us same =>
      have word : u.isWord "BY" = t.isWord "BY" := by
        rw [← cosmetic_unspaced.isWord, same, cosmetic_unspaced.isWord]
      simpa [word] using isBy
  | word asc => simp [isWord_eq asc] at isBy

/-- Words `ASC` in the body of an ordering leave the sections where they are. -/
theorem splitFrom_ascends (ascends : Ascends ts us) (gap : Bool) {depth : Nat}
    {later : List Section}
    (split : splitFrom (some (.clause .ordering)) depth (ts ++ post) = (ts, later)) :
    ∃ later', splitFrom (some (.clause .ordering)) depth (us ++ marked gap post) = (us, later') ∧
      later'.filterMap part? = later.filterMap part? := by
  induction ascends generalizing depth with
  | nil => exact splitFrom_marked split gap
  | @keep t u ts us same ascends ih =>
      obtain ⟨spaced, rfl⟩ : ∃ spaced, u = { t with spaced := spaced } :=
        ⟨u.spaced, congrArg (fun v : Token => { v with spaced := u.spaced }) same⟩
      have paren : ({ t with spaced := spaced } : Token).isParen = t.isParen := rfl
      have depth' : ({ t with spaced := spaced } : Token).depthAfter depth = t.depthAfter depth :=
        rfl
      have ends : endsQuery { t with spaced := spaced } = endsQuery t := rfl
      rw [List.cons_append, splitFrom] at split
      rw [List.cons_append, splitFrom, paren, depth', ends, Boundary.at?_respaced]
      split_ifs at split ⊢ with inside query
      · obtain ⟨body, rfl⟩ := Prod.mk.inj split
        obtain ⟨later', split', parts⟩ := ih (Prod.ext (List.cons.inj body).2 rfl)
        exact ⟨later', by rw [split'], parts⟩
      · cases split
      · split at split
        next b opens => cases split
        next closed =>
          obtain ⟨body, rfl⟩ := Prod.mk.inj split
          obtain ⟨later', split', parts⟩ := ih (Prod.ext (List.cons.inj body).2 rfl)
          -- A `BY` that follows the token followed it before, so nothing opens here now.
          rw [Boundary.at?_eq_none_of_next rfl (isBy_of_ascends ascends gap) closed]
          exact ⟨later', by rw [split'], parts⟩
  | @word t ts us asc ascends ih =>
      obtain ⟨later', split', parts⟩ := ih split
      refine ⟨later', ?_, parts⟩
      have noParen : t.isParen = false := by simp [isParen, kind_of_isWord asc]
      have kept := depthAfter_of_not_isParen depth noParen
      rw [List.cons_append, splitFrom, kept, endsQuery_ascending asc, at?_ascending asc, split']
      simp

end Section

/-! ### The canonical text -/

namespace Piece

/-- Whether a word that is written after the pieces has a space before it. -/
def endApart (ps : List Piece) : Bool := ps.getLast?.any fun p => !p.isJoint && p.kind != .openParen

theorem renderAfter_concat (p : Piece) (ps : List Piece) (last q : Piece)
    (ends : (p :: ps).getLast? = some last) :
    renderAfter p (ps ++ [q]) = renderAfter p ps ++ renderAfter last [q] := by
  induction ps generalizing p with
  | nil =>
      obtain rfl := Option.some.inj ends
      rfl
  | cons p' ps ih =>
      rw [List.getLast?_cons_cons] at ends
      rw [List.cons_append, renderAfter, renderAfter, ih p' ends, List.append_assoc]

theorem render_concat {ps : List Piece} {w : Text} (apart : endApart ps)
    (noJoint : (word w).isJoint = false) : render (ps ++ [word w]) = render ps ++ ' ' :: w := by
  obtain ⟨last, ends, space⟩ := (Option.any_eq_true _ _).mp apart
  cases ps with
  | nil => cases ends
  | cons p ps =>
      rw [Bool.and_eq_true, Bool.not_eq_true', bne_iff_ne] at space
      have loose : isTight last (word w) = false := by
        rw [isTight, space.1, beq_false_of_ne space.2]
        exact noJoint
      rw [List.cons_append, render, render, renderAfter_concat p ps last _ ends, renderAfter, loose,
        List.append_assoc]
      simp [renderAfter, word]

end Piece

namespace Scope

variable {s : Scope} {withAliases : Bool} {t : Token}

/-- A word at the end that stands for itself is the last piece. -/
theorem pieces_concat (noDot : isDot t = false) (noParen : t.kind ≠ .openParen)
    (itself : ∀ afterDot, s.reference? withAliases afterDot t none = none) :
    ∀ (afterDot : Bool) (e : List Token),
      s.pieces withAliases afterDot (e ++ [t]) = s.pieces withAliases afterDot e ++ [.ofToken t]
  | afterDot, [] => by
      have qualifier : s.qualifier? afterDot t none = none := by simp [qualifier?]
      rw [List.nil_append, pieces_cons, List.head?_nil, qualifier, itself, pieces]
      rfl
  | afterDot, u :: e => by
      have later := pieces_concat noDot noParen itself (isDot u) e
      have qualifier : s.qualifier? afterDot u (e ++ [t]).head? =
          s.qualifier? afterDot u e.head? := by
        cases e <;> simp [qualifier?, noDot]
      have reference : s.reference? withAliases afterDot u (e ++ [t]).head? =
          s.reference? withAliases afterDot u e.head? := by
        cases e <;> simp [reference?, noDot, noParen]
      rw [List.cons_append, pieces_cons, pieces_cons, qualifier, reference, later]
      cases qualifies : s.qualifier? afterDot u e.head? with
      | none => cases s.reference? withAliases afterDot u e.head? <;> rfl
      | some table =>
          cases e with
          | nil => simp [qualifier?] at qualifies
          | cons next rest =>
              simp only [List.cons_append, pieces_concat noDot noParen itself true rest]
              split <;> rfl

theorem expression?_ascending (asc : t.isWord "ASC") :
    s.expression? t.text = s.expression? "asc".toList := by
  have capitals : Text.upper "asc".toList = "ASC".toList := by decide
  rw [expression?, expression?, ← Text.lowercase_upper, upper_of_isWord asc, ← capitals,
    Text.lowercase_upper]

theorem ofToken_ascending (asc : t.isWord "ASC") : Piece.ofToken t = .word "ASC".toList := by
  have foldable : t.isFoldable := by
    have kind := kind_of_isWord asc
    simp [isFoldable, kind, Keyword.isFoldable, Keyword.isReserved, Keyword.holds, Keyword.reserved,
      upper_of_isWord asc]
  rw [Piece.ofToken, foldedText, if_pos foldable, upper_of_isWord asc, kind_of_isWord asc]
  rfl

/-- `ASC` after an expression is the last word of its canonical text, unless it names a projection
item. -/
theorem canonicalTokens_ascending {e : List Token} (asc : t.isWord "ASC")
    (free : s.expression? "asc".toList = none) (apart : Piece.endApart (s.pieces true false e)) :
    s.canonicalTokens true (e ++ [t]) = s.canonicalTokens true e ++ " ASC".toList := by
  have noDot : isDot t = false := by
    refine beq_false_of_ne fun dot => ?_
    have capitals := upper_of_isWord asc
    rw [dot] at capitals
    exact absurd capitals (by decide)
  have itself (afterDot : Bool) : s.reference? true afterDot t none = none := by
    rw [reference?, expression?_ascending asc, free, ite_self]
  rw [canonicalTokens, pieces_concat noDot (by simp [kind_of_isWord asc]) itself,
    ofToken_ascending asc, Piece.render_concat apart (by decide), canonicalTokens]
  rfl

end Scope

namespace Statement

variable {t : Text}

theorem withoutAscending_append (t : Text) : withoutAscending (t ++ " ASC".toList) = t := by
  have reversed : (t ++ " ASC".toList).reverse = "CSA ".toList ++ t.reverse := by
    rw [List.reverse_append]
    rfl
  rw [withoutAscending, reversed, Text.dropStart?_append]
  exact List.reverse_reverse t

theorem withoutAscending_of_not_isSuffix (noDirection : ¬ " ASC".toList <:+ t) :
    withoutAscending t = t := by
  unfold withoutAscending
  split
  next rest found =>
    have reversed := congrArg List.reverse (Text.eq_append_of_dropStart? found)
    rw [List.reverse_reverse, List.reverse_append] at reversed
    exact absurd ⟨rest.reverse, reversed.symm⟩ noDirection
  next => rfl

end Statement

end SqlGrader
