import SqlGrader.Proofs.Sql.SchemaReferences
import SqlGrader.Proofs.Sql.SectionEdits
/-!
# Sections with the default schema

The schema, the point and the name after it are no words of a boundary and end no query, and the
words of a boundary do not reach beyond them. So the schema may stand before any plain names of a
statement: each section keeps its place among the others.
-/

namespace SqlGrader

open Token

/-- The second list is the first one with the default schema before some of its plain names. -/
inductive Prefixed : List Token → List Token → Prop
  | nil : Prefixed [] []
  | keep {ts us : List Token} (t : Token) (later : Prefixed ts us) : Prefixed (t :: ts) (t :: us)
  | before {schema point name : Token} {ts us : List Token} (gap : Bool)
      (isSchema : IsSchema schema point) (plain : name.IsPlainName) (later : Prefixed ts us) :
      Prefixed (name :: ts) (schema :: point :: { name with spaced := gap } :: us)

/-- Whether the token is no word of a boundary, ends no query and is no parenthesis. -/
structure Token.IsInert (t : Token) : Prop where
  noParen : t.isParen = false
  noWord : ∀ w ∈ Boundary.openingWords, t.isWord w = false
  goesOn : Section.endsQuery t = false

variable {schema point name t : Token} {ts us ts' us' item item' : List Token}
  {current : Option Slot} {depth : Nat}

/-! ### Inert tokens -/

theorem Token.IsInert.of_kind_symbol (symbol : t.kind = .symbol) (other : t.text ≠ [';']) :
    t.IsInert := by
  refine ⟨by simp [isParen, symbol], fun w _ => by simp [isWord, symbol], ?_⟩
  rw [Section.endsQuery, isAnyWord_of_kind_ne (by simp [symbol]), NormalForm.isTerminator]
  simp [other]

/-- A word is inert if it is none of those that sections start and queries end with. -/
theorem Token.IsInert.of_kind_word (word : t.kind = .word)
    (noWord : ∀ w ∈ Boundary.openingWords ++ ["UNION", "INTERSECT", "EXCEPT"],
      t.isWord w = false) : t.IsInert := by
  refine ⟨by simp [isParen, word], fun w known => noWord w (List.mem_append_left _ known), ?_⟩
  have noSymbol : (t.kind == .symbol) = false := by simp [word]
  have noOperator : t.isAnyWord ["UNION", "INTERSECT", "EXCEPT"] = false :=
    List.any_eq_false.mpr fun w known => by simp [noWord w (List.mem_append_right _ known)]
  rw [Section.endsQuery, NormalForm.isTerminator, noSymbol, noOperator]
  rfl

theorem Token.IsPlainName.isInert (plain : name.IsPlainName) : name.IsInert := by
  have reserved : ∀ w ∈ Boundary.openingWords ++ ["UNION", "INTERSECT", "EXCEPT"],
      w ∈ Keyword.reserved := by
    decide
  exact .of_kind_word plain.1 fun w known => plain.not_isWord (reserved w known)

theorem IsSchema.isInert (isSchema : IsSchema schema point) : schema.IsInert ∧ point.IsInert := by
  have other : ∀ w ∈ Boundary.openingWords ++ ["UNION", "INTERSECT", "EXCEPT"],
      ("PUBLIC" == w) = false := by
    decide
  refine ⟨.of_kind_word (kind_of_isWord isSchema.word) fun w known => ?_,
    .of_kind_symbol isSchema.symbol (by simp [isSchema.text])⟩
  rw [isWord_eq isSchema.word, other w known]

namespace Token.IsInert

theorem joinWidth? (inert : t.IsInert) (ts : List Token) :
    Boundary.joinWidth? (t :: ts) = none := by
  refine Option.eq_none_iff_forall_not_mem.mpr fun n width => ?_
  obtain ⟨modifiers, j, rest, whole, all, join, -⟩ := Boundary.joinWidth?_eq_some.mp width
  cases modifiers with
  | nil =>
      obtain ⟨rfl, -⟩ := List.cons.inj whole
      rw [inert.noWord "JOIN" (by decide)] at join
      cases join
  | cons m modifiers =>
      obtain ⟨rfl, -⟩ := List.cons.inj whole
      obtain ⟨w, known, word⟩ := List.any_eq_true.mp (all t (by simp))
      have listed : ∀ w ∈ Boundary.joinModifiers, w ∈ Boundary.openingWords := by decide
      rw [inert.noWord w (listed w known)] at word
      cases word

/-- Inert tokens belong to the section that they stand in. -/
theorem stays (inert : ∀ t ∈ ts, t.IsInert) (rest : List Token) :
    Section.Stays current depth ts rest := by
  rintro before t after rfl -
  have here := inert t (by simp)
  exact ⟨by rw [here.goesOn, Bool.and_false], Section.at?_of_not_opening here.noWord _⟩

end Token.IsInert

namespace Prefixed

theorem refl (ts : List Token) : Prefixed ts ts := by
  induction ts with
  | nil => exact .nil
  | cons t ts ih => exact .keep t ih

theorem append (front : Prefixed ts us) (back : Prefixed ts' us') :
    Prefixed (ts ++ ts') (us ++ us') := by
  induction front with
  | nil => exact back
  | keep t _ ih => exact .keep t ih
  | before gap isSchema plain _ ih => exact .before gap isSchema plain ih

/-! ### What a boundary sees of them -/

theorem isBy (pair : Prefixed ts us) :
    us.head?.any (·.isWord "BY") = ts.head?.any (·.isWord "BY") := by
  cases pair with
  | nil | keep => rfl
  | before gap isSchema plain =>
      simp [isSchema.isInert.1.noWord "BY" (by decide), plain.isInert.noWord "BY" (by decide)]

theorem joinWidth? (pair : Prefixed ts us) : Boundary.joinWidth? us = Boundary.joinWidth? ts := by
  induction pair with
  | nil => rfl
  | keep t _ ih =>
      by_cases modifier : Boundary.isJoinModifier t
      · rw [Boundary.joinWidth?_cons modifier, Boundary.joinWidth?_cons modifier, ih]
      · have reached : t ∈ [t] := List.mem_singleton_self t
        exact Boundary.joinWidth?_append_of_mem reached modifier _ _
  | before gap isSchema plain =>
      rw [isSchema.isInert.1.joinWidth?, plain.isInert.joinWidth?]

theorem boundaryAt? (pair : Prefixed ts us) (current : Option Slot) (t : Token) :
    Boundary.at? current t us = Boundary.at? current t ts := by
  simp only [Boundary.at?, pair.isBy, (keep t pair).joinWidth?]

end Prefixed

namespace Section

/-- The second section is the first one with the default schema before some names of its body. -/
inductive Prefixed : Section → Section → Prop
  | body {b : Boundary} {opening body body' : List Token} (pair : SqlGrader.Prefixed body body') :
      Prefixed ⟨b, opening, body⟩ ⟨b, opening, body'⟩

variable {s s' : Section} {ss ss' : List Section} {body body' rest rest' : List Token}

theorem Prefixed.tokens (pair : Prefixed s s') : SqlGrader.Prefixed s.tokens s'.tokens := by
  obtain ⟨pair⟩ := pair
  exact (SqlGrader.Prefixed.refl _).append pair

theorem prefixed_flatMap (pairs : List.Forall₂ Prefixed ss ss') :
    SqlGrader.Prefixed (ss.flatMap tokens) (ss'.flatMap tokens) := by
  induction pairs with
  | nil => exact .nil
  | cons pair _ ih => exact pair.tokens.append ih

/-- The schema and the name after it belong to the section that they stand in. -/
theorem splitFrom_schema (gap : Bool) (isSchema : IsSchema schema point)
    (plain : name.IsPlainName) (split : splitFrom current depth us = (body, ss)) :
    splitFrom current depth (schema :: point :: { name with spaced := gap } :: us) =
      (schema :: point :: { name with spaced := gap } :: body, ss) := by
  have name' : ({ name with spaced := gap } : Token).IsPlainName := plain
  have inert : ∀ t ∈ [schema, point, { name with spaced := gap }], t.IsInert := by
    simp [isSchema.isInert, name'.isInert]
  have passed := splitFrom_stays (Token.IsInert.stays inert us : Stays current depth _ us)
  rw [depthAt_of_not_isParen depth fun t mem => (inert t mem).noParen, split] at passed
  exact passed

/-- The sections with the schema written in them are the sections of their tokens. -/
theorem splitFrom_prefixed (split : splitFrom current depth ts = (body, ss))
    (whole : ts = body ++ (ss.flatMap tokens ++ rest)) (front : SqlGrader.Prefixed body body')
    (pairs : List.Forall₂ Prefixed ss ss') (back : SqlGrader.Prefixed rest rest') :
    splitFrom current depth (body' ++ (ss'.flatMap tokens ++ rest')) = (body', ss') := by
  fun_induction splitFrom current depth ts generalizing body ss body' ss' with
  | case1 =>
      obtain ⟨rfl, rfl⟩ := Prod.mk.inj split
      cases front
      cases pairs
      obtain rfl : rest = [] := whole.symm
      cases back
      simp [splitFrom]
  | case2 current depth t ts inside held later result ih =>
      obtain ⟨rfl, rfl⟩ := Prod.mk.inj split
      have whole := (List.cons.inj whole).2
      cases front with
      | keep t front =>
          rw [List.cons_append, splitFrom, if_pos inside, ih result whole front pairs]
      | before gap isSchema plain front =>
          have later := ih result whole front pairs
          rw [depthAfter_of_not_isParen depth plain.isInert.noParen] at later
          exact splitFrom_schema gap isSchema plain later
  | case3 current depth t ts outside ends =>
      obtain ⟨rfl, rfl⟩ := Prod.mk.inj split
      obtain rfl : rest = t :: ts := whole.symm
      cases front
      cases pairs
      cases back with
      | keep t back =>
          rw [List.nil_append, List.flatMap_nil, List.nil_append, splitFrom, if_neg outside,
            if_pos ends]
      | before gap isSchema plain back => simp [plain.isInert.goesOn] at ends
  | case4 current depth t ts outside goesOn b opens held later result ih =>
      have flat : t.isParen = false ∧ depth = 0 := by simpa using outside
      obtain ⟨rfl, rfl⟩ := Prod.mk.inj split
      obtain rfl := flat.2
      have words := (Boundary.at?_take opens).1
      have parts := Boundary.at?_take_append_drop opens
      cases front
      obtain ⟨s', later', pair, others, rfl⟩ := List.forall₂_cons_left_iff.mp pairs
      have after : ts.drop (b.width - 1) = held ++ (later.flatMap tokens ++ rest) := by
        rw [List.nil_append, List.flatMap_cons, tokens, List.append_assoc,
          List.append_assoc] at whole
        exact List.append_cancel_left (parts.trans whole)
      obtain ⟨pair⟩ := pair
      have tail := ih result after pair others
      rw [List.nil_append, List.flatMap_cons, tokens, List.append_assoc, List.append_assoc,
        splitFrom_opening words, tail]
  | case5 current depth t ts outside goesOn opens held later result ih =>
      obtain ⟨rfl, rfl⟩ := Prod.mk.inj split
      have whole := (List.cons.inj whole).2
      cases front with
      | keep t front =>
          -- What follows the token looks the same to a boundary.
          have pair := front.append ((prefixed_flatMap pairs).append back)
          rw [← show ts = held ++ (later.flatMap tokens ++ rest) from whole] at pair
          rw [List.cons_append, splitFrom, if_neg outside, if_neg goesOn, pair.boundaryAt?, opens,
            ih result whole front pairs]
      | before gap isSchema plain front =>
          exact splitFrom_schema gap isSchema plain (ih result whole front pairs)

end Section

end SqlGrader
