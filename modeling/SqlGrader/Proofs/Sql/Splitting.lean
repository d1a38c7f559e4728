import SqlGrader.Proofs.Sql.Openings
import Mathlib.Data.List.Infix
/-!
# How tokens split into sections

The scan passes over tokens between which nothing opens and nothing ends, and over a group in
parentheses whatever it holds. At the words of a boundary it starts the next section. So the
sections of tokens with others after them, of which the first is no word, are the sections of the
two parts: the last section of the first part takes what comes next, unless the query ends before.
-/

namespace SqlGrader.Token

variable {t : Token} {ts us : List Token}

/-- Lists in which no prefix closes more parentheses than it opens, and all of them are closed. -/
structure Balanced (ts : List Token) : Prop where
  fronts : ∀ front ∈ ts.inits,
    front.countP (·.kind == .closeParen) ≤ front.countP (·.kind == .openParen)
  closed : ts.countP (·.kind == .closeParen) = ts.countP (·.kind == .openParen)

instance (ts : List Token) : Decidable (Balanced ts) :=
  decidable_of_iff _ ⟨fun ⟨fronts, closed⟩ => ⟨fronts, closed⟩,
    fun ⟨fronts, closed⟩ => And.intro fronts closed⟩

/-- The tokens in parentheses. The marks tell whether the two parentheses are spaced. -/
def parenthesized (opening closing : Bool) (ts : List Token) : List Token :=
  ⟨.openParen, ['('], opening⟩ :: (ts ++ [⟨.closeParen, [')'], closing⟩])

/-- The word as a token with a gap before it. -/
def spacedWord (w : String) : Token := ⟨.word, w.toList, true⟩

theorem depthAt_append (depth : Nat) (ts us : List Token) :
    depthAt depth (ts ++ us) = depthAt (depthAt depth ts) us :=
  List.foldl_append

/-- Depth counts what is open as long as nothing is closed that is not open. -/
theorem depthAt_add_countP (depth : Nat)
    (fronts : ∀ front ∈ ts.inits,
      front.countP (·.kind == .closeParen) ≤ front.countP (·.kind == .openParen)) :
    depthAt depth ts + ts.countP (·.kind == .closeParen) =
      depth + ts.countP (·.kind == .openParen) := by
  induction ts using List.reverseRecOn with
  | nil => simp [depthAt]
  | append_singleton ts t ih =>
      have whole := fronts (ts ++ [t]) ((List.mem_inits _ _).mpr List.prefix_rfl)
      have before := ih fun front mem =>
        fronts front ((List.mem_inits _ _).mpr (((List.mem_inits _ _).mp mem).trans
          (List.prefix_append ts [t])))
      rw [depthAt_append]
      simp only [List.countP_append, List.countP_singleton, depthAt, List.foldl_cons,
        List.foldl_nil, depthAfter] at whole before ⊢
      cases kind : t.kind <;> simp_all <;> omega

theorem Balanced.depthAt_eq (balanced : Balanced ts) (depth : Nat) : depthAt depth ts = depth := by
  have counted := depthAt_add_countP depth balanced.fronts
  rw [balanced.closed] at counted
  exact Nat.add_right_cancel counted

/-- Inside of a balanced list depth never falls below where it starts. -/
theorem Balanced.le_depthAt (balanced : Balanced ts) (depth : Nat) {front : List Token}
    (isFront : front <+: ts) : depth ≤ depthAt depth front := by
  have fronts : ∀ f ∈ front.inits,
      f.countP (·.kind == .closeParen) ≤ f.countP (·.kind == .openParen) := fun f mem =>
    balanced.fronts f ((List.mem_inits _ _).mpr (((List.mem_inits _ _).mp mem).trans isFront))
  have counted := depthAt_add_countP depth fronts
  have whole := fronts front ((List.mem_inits _ _).mpr List.prefix_rfl)
  omega

end SqlGrader.Token

namespace SqlGrader.Section

open Token

variable {t : Token} {ts us rest opening : List Token} {current : Option Slot} {depth : Nat}
  {b : Boundary}

/-- All tokens of a section, its opening included. -/
def tokens (s : Section) : List Token := s.opening ++ s.body

/-! ### One step of the scan -/

/-- A token that is none of the words of a boundary opens nothing. -/
theorem at?_of_not_opening (noWord : ∀ w ∈ Boundary.openingWords, t.isWord w = false)
    (ts : List Token) : Boundary.at? current t ts = none := by
  refine Option.eq_none_iff_forall_not_mem.mpr fun b opens => ?_
  obtain ⟨opening, ⟨rest, whole⟩, words⟩ := Boundary.at?_eq_some_iff.mp opens
  obtain ⟨u, opening, rfl⟩ := List.exists_cons_of_ne_nil words.ne_nil
  obtain ⟨rfl, -⟩ := List.cons.inj whole
  obtain ⟨w, known, word⟩ := words.known_words u (by simp)
  rw [noWord w known] at word
  cases word

theorem at?_of_kind_ne (noWord : t.kind ≠ .word) : Boundary.at? current t ts = none :=
  at?_of_not_opening (fun w _ => by simp [isWord, noWord]) ts

theorem endsQuery_of_isParen (paren : t.isParen) : endsQuery t = false := by
  have noWord := isAnyWord_of_kind_ne (kind_of_isParen paren) ["UNION", "INTERSECT", "EXCEPT"]
  have noSymbol : (t.kind == .symbol) = false := by
    cases kind : t.kind <;> simp_all [isParen]
  simp [endsQuery, NormalForm.isTerminator, noWord, noSymbol]

/-- The words of a boundary end no query. -/
theorem endsQuery_of_opening (opens : Boundary.Opening current b opening) (mem : t ∈ opening) :
    endsQuery t = false := by
  obtain ⟨w, known, word⟩ := opens.known_words t mem
  have noSymbol : (t.kind == .symbol) = false := by simp [kind_of_isWord word]
  have other : ∀ w ∈ Boundary.openingWords,
      ["UNION", "INTERSECT", "EXCEPT"].contains w = false := by
    decide
  rw [endsQuery, NormalForm.isTerminator, noSymbol, isAnyWord_eq word, other w known]
  rfl

/-- The words of a boundary start a section. -/
theorem splitFrom_opening (opens : Boundary.Opening current b opening) (rest : List Token) :
    splitFrom current 0 (opening ++ rest) =
      ([], ⟨b, opening, (splitFrom (some b.slot) 0 rest).1⟩ ::
        (splitFrom (some b.slot) 0 rest).2) := by
  obtain ⟨t, us, rfl⟩ := List.exists_cons_of_ne_nil opens.ne_nil
  have width : b.width = us.length + 1 := opens.length_eq.symm
  have noParen : t.isParen = false := by simp [isParen, opens.words t (by simp)]
  rw [List.cons_append, splitFrom, noParen, endsQuery_of_opening opens (by simp), opens.at? rest]
  simp [width]

/-- A query that has begun ends at a semicolon and at a set operator. -/
theorem splitFrom_ends (begun : current.isSome) (ends : endsQuery t) (rest : List Token) :
    splitFrom current 0 (t :: rest) = ([], []) := by
  have noParen : t.isParen = false :=
    Bool.eq_false_iff.mpr fun paren => by simp [endsQuery_of_isParen paren] at ends
  rw [splitFrom, noParen, begun, ends]
  simp

/-- Whether the tokens belong to the section `current` where `rest` follows them: outside of
parentheses no section opens in them, and the query does not end. -/
def Stays (current : Option Slot) (depth : Nat) (ts rest : List Token) : Prop :=
  ∀ before t after, ts = before ++ t :: after → depthAt depth before = 0 →
    (current.isSome && endsQuery t) = false ∧ Boundary.at? current t (after ++ rest) = none

theorem Stays.tail (stays : Stays current depth (t :: ts) rest) :
    Stays current (t.depthAfter depth) ts rest := by
  rintro before u after rfl flat
  exact stays (t :: before) u after rfl flat

/-- Tokens that belong to the section are passed over. -/
theorem splitFrom_stays (stays : Stays current depth ts rest) :
    splitFrom current depth (ts ++ rest) =
      (ts ++ (splitFrom current (depthAt depth ts) rest).1,
        (splitFrom current (depthAt depth ts) rest).2) := by
  induction ts generalizing depth with
  | nil => rfl
  | cons t ts ih =>
      have later := ih stays.tail
      by_cases inside : t.isParen || depth != 0
      · rw [List.cons_append, splitFrom, if_pos inside, later]
        rfl
      · have outside : t.isParen = false ∧ depth = 0 := by simpa using inside
        obtain ⟨goesOn, closed⟩ := stays [] t ts rfl outside.2
        have kept := depthAfter_of_not_isParen depth outside.1
        have flat : depthAt depth (t :: ts) = depthAt depth ts := by
          rw [depthAt, List.foldl_cons, kept, depthAt]
        rw [kept] at later
        rw [List.cons_append, splitFrom, if_neg inside, if_neg (by simp [goesOn]), closed, later,
          flat]
        rfl

/-! ### Groups in parentheses -/

/-- A group belongs to the section that it stands in, whatever it holds. -/
theorem stays_parenthesized (balanced : Balanced ts) (opening closing : Bool)
    (current : Option Slot) (depth : Nat) (rest : List Token) :
    Stays current depth (parenthesized opening closing ts) rest := by
  intro before t after same flat
  have paren : t.isParen → (current.isSome && endsQuery t) = false ∧
      Boundary.at? current t (after ++ rest) = none := fun paren =>
    ⟨by simp [endsQuery_of_isParen paren], at?_of_kind_ne (kind_of_isParen paren)⟩
  cases before with
  | nil =>
      obtain ⟨rfl, -⟩ := List.cons.inj same
      exact paren rfl
  | cons o front =>
      obtain ⟨rfl, inner⟩ := List.cons.inj same
      have within : front <+: ts := by
        have whole : front <+: ts ++ [⟨.closeParen, [')'], closing⟩] := ⟨t :: after, inner.symm⟩
        have len : (ts ++ [(⟨.closeParen, [')'], closing⟩ : Token)]).length =
            (front ++ t :: after).length :=
          congrArg List.length inner
        simp only [List.length_append, List.length_cons, List.length_nil] at len
        exact List.prefix_of_prefix_length_le whole (List.prefix_append ts _) (by omega)
      have inside := balanced.le_depthAt (depth + 1) within
      have flat' : depthAt (depth + 1) front = 0 := flat
      omega

/-! ### Tokens after tokens -/

/-- Whether the tokens start with none that could be a word of a boundary. -/
def StartsApart (ts : List Token) : Prop := ∀ u ∈ ts.head?, u.kind ≠ .word

/-- How the sections of tokens go on where others follow, of which the first is no word. -/
inductive Continues (current : Option Slot) (depth : Nat) (ts : List Token) : Prop
  /-- The query ends before. -/
  | ended (same : ∀ rest, StartsApart rest →
      splitFrom current depth (ts ++ rest) = splitFrom current depth ts)
  /-- No section opens before. -/
  | body (same : ∀ rest, StartsApart rest →
      splitFrom current depth (ts ++ rest) =
        (ts ++ (splitFrom current (depthAt depth ts) rest).1,
          (splitFrom current (depthAt depth ts) rest).2))
  /-- The last section that opens before goes on. -/
  | last (lead : List Token) (done : List Section) (s : Section)
      (whole : ts = lead ++ (done ++ [s]).flatMap tokens)
      (same : ∀ rest, StartsApart rest →
        splitFrom current depth (ts ++ rest) =
          (lead, done ++
            ⟨s.boundary, s.opening,
              s.body ++ (splitFrom (some s.boundary.slot) (depthAt depth ts) rest).1⟩ ::
            (splitFrom (some s.boundary.slot) (depthAt depth ts) rest).2))

theorem startsApart_nil : StartsApart [] := by
  simp [StartsApart]

namespace Continues

/-- A token that is passed over. -/
theorem cons {inner : Nat}
    (step : ∀ rest, StartsApart rest → splitFrom current depth (t :: (ts ++ rest)) =
      (t :: (splitFrom current inner (ts ++ rest)).1, (splitFrom current inner (ts ++ rest)).2))
    (deep : depthAt depth (t :: ts) = depthAt inner ts) (later : Continues current inner ts) :
    Continues current depth (t :: ts) := by
  have alone := step [] startsApart_nil
  rw [List.append_nil] at alone
  cases later with
  | ended same =>
      refine .ended fun rest apart => ?_
      rw [List.cons_append, step rest apart, same rest apart, alone]
  | body same =>
      refine .body fun rest apart => ?_
      rw [List.cons_append, step rest apart, same rest apart, deep, List.cons_append]
  | last lead done s whole same =>
      refine .last (t :: lead) done s (by rw [whole, List.cons_append]) fun rest apart => ?_
      rw [List.cons_append, step rest apart, same rest apart, deep]

/-- A section that opens. -/
theorem next (opens : Boundary.Opening current b opening)
    (later : Continues (some b.slot) 0 ts) :
    Continues current 0 (opening ++ ts) := by
  have step := splitFrom_opening opens
  have deep : depthAt 0 (opening ++ ts) = depthAt 0 ts := by
    rw [depthAt_append, depthAt_of_words 0 opens.words]
  cases later with
  | ended same =>
      refine .ended fun rest apart => ?_
      rw [List.append_assoc, step, same rest apart, step]
  | body same =>
      refine .last [] [] ⟨b, opening, ts⟩ (by simp [tokens]) fun rest apart => ?_
      rw [List.append_assoc, step, same rest apart, deep]
      rfl
  | last lead done s whole same =>
      refine .last [] (⟨b, opening, lead⟩ :: done) s (by simp [tokens, whole]) fun rest apart => ?_
      rw [List.append_assoc, step, same rest apart, deep]
      rfl

end Continues

theorem continues (current : Option Slot) (depth : Nat) (ts : List Token) :
    Continues current depth ts := by
  fun_induction splitFrom current depth ts with
  | case1 current depth => exact .body fun _ _ => rfl
  | case2 current depth t ts inside body later rest ih =>
      refine ih.cons (fun us apart => ?_) rfl
      rw [splitFrom, if_pos inside]
  | case3 current depth t ts outside query =>
      refine .ended fun us apart => ?_
      rw [List.cons_append, splitFrom, splitFrom, if_neg outside, if_pos query, if_neg outside,
        if_pos query]
  | case4 current depth t ts outside goesOn b opens body later rest ih =>
      obtain ⟨words, fits⟩ := Boundary.at?_take opens
      have flat : depth = 0 := by simp_all
      subst flat
      rw [← Boundary.at?_take_append_drop opens]
      exact ih.next words
  | case5 current depth t ts outside goesOn opens body later rest ih =>
      have noParen : t.isParen = false := by simp_all
      have kept := depthAfter_of_not_isParen depth noParen
      refine ih.cons (fun us apart => ?_) (by rw [depthAt, List.foldl_cons, kept, depthAt])
      rw [splitFrom, if_neg outside, if_neg goesOn, Boundary.at?_append apart, opens]

end SqlGrader.Section
