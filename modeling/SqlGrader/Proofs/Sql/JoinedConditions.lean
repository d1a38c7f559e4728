import SqlGrader.Proofs.Sql.ClauseTokens
import SqlGrader.Proofs.Sql.Pieces
import SqlGrader.Proofs.Sql.Splitting
/-!
# Conditions that are joined

Conditions are cut apart at `AND` and `OR`, except at an `AND` that a `BETWEEN` before it waits for.
Whether one waits is remembered from token to token, also across a cut. A condition whose ranges are
complete leaves none that waits, so the connective after it is read as one, and conditions that are
joined come back as they were.
-/

namespace SqlGrader.Conditions

open Token Lexer

variable {t : Token} {c ts us p : List Token} {ps : List (List Token)}
variable {between : Bool} {depth : Nat}

/-- The tokens outside of parentheses, the parentheses left out. -/
def outermost (depth : Nat) : List Token → List Token
  | [] => []
  | t :: ts =>
    if t.isParen || depth != 0 then outermost (t.depthAfter depth) ts else t :: outermost depth ts

/-- Whether the word is one of those that make a range. -/
def isRangeWord (t : Token) : Bool := t.isWord "BETWEEN" || t.isWord "AND"

/-- Words of complete ranges: the `BETWEEN` and the `AND` take turns. The mark tells whether the
words start after a `BETWEEN`. -/
inductive Ranges : Bool → List Token → Prop
  | done : Ranges false []
  | opens {t : Token} {ts : List Token} (word : t.isWord "BETWEEN") (later : Ranges true ts) :
      Ranges false (t :: ts)
  | closes {t : Token} {ts : List Token} (word : t.isWord "AND") (later : Ranges false ts) :
      Ranges true (t :: ts)

instance decidableRanges : (between : Bool) → (ts : List Token) → Decidable (Ranges between ts)
  | false, [] => isTrue .done
  | true, [] => isFalse nofun
  | false, t :: ts =>
    if word : t.isWord "BETWEEN" then
      match decidableRanges true ts with
      | isTrue later => isTrue (.opens word later)
      | isFalse broken => isFalse fun | .opens _ later => broken later
    else isFalse fun | .opens word' _ => word word'
  | true, t :: ts =>
    if word : t.isWord "AND" then
      match decidableRanges false ts with
      | isTrue later => isTrue (.closes word later)
      | isFalse broken => isFalse fun | .closes _ later => broken later
    else isFalse fun | .closes word' _ => word word'

/-- Tokens among which nothing joins conditions. -/
structure Unbroken (ts : List Token) : Prop where
  closed : depthAt 0 ts = 0
  /-- No `OR` stands outside of the parentheses. -/
  noOr : ∀ t ∈ outermost 0 ts, t.isWord "OR" = false
  /-- The ranges outside of the parentheses are complete. -/
  ranges : Ranges false ((outermost 0 ts).filter isRangeWord)

/-- One condition, taken from a text that can be read. -/
structure IsCondition (c : List Token) : Prop where
  nonempty : c ≠ []
  read : ∃ text ts, tokenize text = .ok ts ∧ c <:+: ts
  balanced : Balanced c
  noOr : ∀ t ∈ outermost 0 c, t.isWord "OR" = false
  ranges : Ranges false ((outermost 0 c).filter isRangeWord)

/-! ### Inside of a condition -/

/-- A token outside of parentheses joins nothing where the ranges are complete from it on. -/
theorem joinsConditions_of_ranges (ranges : Ranges between ((t :: ts).filter isRangeWord))
    (noOr : t.isWord "OR" = false) :
    ∃ waits, joinsConditions between t = (waits, false) ∧ Ranges waits (ts.filter isRangeWord) := by
  by_cases rangeWord : isRangeWord t
  · rw [List.filter_cons_of_pos rangeWord] at ranges
    cases ranges with
    | opens word later => exact ⟨true, by rw [joinsConditions, if_pos word], later⟩
    | closes word later =>
        have other : t.isWord "BETWEEN" = false := isWord_eq word "BETWEEN"
        exact ⟨false, by simp [joinsConditions, word, other], later⟩
  · rw [List.filter_cons_of_neg rangeWord] at ranges
    have other : t.isWord "BETWEEN" = false ∧ t.isWord "AND" = false := by
      simpa [isRangeWord] using rangeWord
    exact ⟨between, by simp [joinsConditions, other, noOr], ranges⟩

/-- Tokens among which nothing joins conditions stay in one piece, and no `BETWEEN` waits behind
them. -/
theorem piecesFrom_append (noOr : ∀ t ∈ outermost depth ts, t.isWord "OR" = false)
    (ranges : Ranges between ((outermost depth ts).filter isRangeWord))
    (closed : depthAt depth ts = 0) (after : piecesFrom joinsConditions false 0 us = p :: ps) :
    piecesFrom joinsConditions between depth (ts ++ us) = (ts ++ p) :: ps := by
  induction ts generalizing between depth with
  | nil =>
      obtain rfl : depth = 0 := closed
      cases ranges
      exact after
  | cons t ts ih =>
      rw [List.cons_append, piecesFrom]
      by_cases inside : t.isParen || depth != 0
      · rw [outermost, if_pos inside] at noOr ranges
        rw [if_pos inside, ih noOr ranges closed]
        rfl
      · rw [outermost, if_neg inside] at noOr ranges
        rw [List.forall_mem_cons] at noOr
        have noParen : t.isParen = false := by simp_all
        have same : depthAt depth ts = 0 := by
          rwa [depthAt, List.foldl_cons, depthAfter_of_not_isParen depth noParen] at closed
        obtain ⟨waits, step, later⟩ := joinsConditions_of_ranges ranges noOr.1
        simp only [if_neg inside, step, Bool.false_eq_true, if_false, ih noOr.2 later same]
        rfl

theorem Unbroken.piecesFrom_append (unbroken : Unbroken c)
    (after : piecesFrom joinsConditions false 0 us = p :: ps) :
    piecesFrom joinsConditions false 0 (c ++ us) = (c ++ p) :: ps :=
  Conditions.piecesFrom_append unbroken.noOr unbroken.ranges unbroken.closed after

/-! ### The gap before a condition -/

theorem outermost_marked (spaced : Bool) (ts : List Token) :
    outermost 0 (marked spaced ts) = outermost 0 ts ∨
      outermost 0 (marked spaced ts) = marked spaced (outermost 0 ts) := by
  cases ts with
  | nil => exact .inl rfl
  | cons t ts =>
      by_cases paren : t.isParen || (0 : Nat) != 0
      · have here : outermost 0 (t :: ts) = outermost (t.depthAfter 0) ts := if_pos paren
        exact .inl ((if_pos paren).trans here.symm)
      · have here : outermost 0 (t :: ts) = t :: outermost 0 ts := if_neg paren
        rw [here]
        exact .inr (if_neg paren)

theorem Ranges.filter_marked (ranges : Ranges between (ts.filter isRangeWord)) (spaced : Bool) :
    Ranges between ((marked spaced ts).filter isRangeWord) := by
  cases ts with
  | nil => exact ranges
  | cons t ts =>
      by_cases rangeWord : isRangeWord t
      · have kept : (marked spaced (t :: ts)).filter isRangeWord =
            { t with spaced := spaced } :: ts.filter isRangeWord :=
          List.filter_cons_of_pos rangeWord
        rw [List.filter_cons_of_pos rangeWord] at ranges
        rw [kept]
        cases ranges with
        | opens word later => exact .opens word later
        | closes word later => exact .closes word later
      · have dropped : (marked spaced (t :: ts)).filter isRangeWord = ts.filter isRangeWord :=
          List.filter_cons_of_neg rangeWord
        rwa [dropped, ← List.filter_cons_of_neg rangeWord]

/-- The gap before the first token does not count. -/
theorem Unbroken.marked (unbroken : Unbroken c) (spaced : Bool) : Unbroken (marked spaced c) := by
  obtain ⟨closed, noOr, ranges⟩ := unbroken
  refine ⟨?_, ?_, ?_⟩
  · cases c <;> exact closed
  · rcases outermost_marked spaced c with same | same <;> rw [same]
    · exact noOr
    · cases outer : outermost 0 c with
      | nil => simp [Token.marked]
      | cons t ts =>
          rw [outer, List.forall_mem_cons] at noOr
          exact List.forall_mem_cons.mpr noOr
  · rcases outermost_marked spaced c with same | same <;> rw [same]
    · exact ranges
    · exact ranges.filter_marked spaced

/-! ### Between conditions -/

/-- A connective cuts where no `BETWEEN` waits. -/
theorem piecesFrom_connective (word : t.isWord "AND" ∨ t.isWord "OR") (us : List Token) :
    piecesFrom joinsConditions false 0 (t :: us) = [] :: piecesFrom joinsConditions false 0 us := by
  have noParen : t.isParen = false := by
    rcases word with word | word <;> simp [isParen, kind_of_isWord word]
  have other : t.isWord "BETWEEN" = false := by
    rcases word with word | word <;> exact isWord_eq word "BETWEEN"
  have joins : joinsConditions false t = (false, true) := by
    rcases word with word | word <;> simp [joinsConditions, other, word]
  rw [piecesFrom, if_neg (by simp [noParen]), joins]
  rfl

/-- The tokens of conditions, each after the first with its connective before it. -/
def joined (first : List Token) (more : List (Token × List Token)) : List Token :=
  first ++ more.flatMap fun m => m.1 :: m.2

/-- Cutting undoes joining. -/
theorem split_joined {first : List Token} {more : List (Token × List Token)}
    (conditions : ∀ c ∈ first :: more.map (·.2), Unbroken c ∧ c ≠ [])
    (connectives : ∀ t ∈ more.map (·.1), t.isWord "AND" ∨ t.isWord "OR") :
    split (joined first more) = first :: more.map (·.2) := by
  have pieces : piecesFrom joinsConditions false 0 (joined first more) =
      first :: more.map (·.2) := by
    induction more generalizing first with
    | nil =>
        have none : piecesFrom joinsConditions false 0 [] = [[]] := rfl
        have alone := (conditions first (by simp)).1.piecesFrom_append none
        simpa [joined] using alone
    | cons m more ih =>
        rw [List.map_cons, List.forall_mem_cons] at conditions connectives
        have later : piecesFrom joinsConditions false 0 (m.1 :: joined m.2 more) =
            [] :: m.2 :: more.map (·.2) := by
          rw [piecesFrom_connective connectives.1, ih conditions.2 connectives.2]
        have whole := conditions.1.1.piecesFrom_append later
        simpa [joined] using whole
  rw [split, splitTopLevelWith, pieces, List.filter_eq_self]
  intro c mem
  simpa using (conditions c mem).2

/-- Tokens among which nothing joins conditions are one condition. -/
theorem Unbroken.split_eq (unbroken : Unbroken c) (nonempty : c ≠ []) : split c = [c] := by
  have alone : split (joined c []) = [c] :=
    split_joined (by simp [unbroken, nonempty]) (by simp)
  rwa [joined, List.flatMap_nil, List.append_nil] at alone

/-! ### Texts of conditions -/

/-- Whether the text is a connective in some letter case. -/
def IsConnective (w : Text) : Prop := Text.upper w = "AND".toList ∨ Text.upper w = "OR".toList

instance (w : Text) : Decidable (IsConnective w) := inferInstanceAs (Decidable (_ ∨ _))

/-- The texts of conditions with connectives and single spaces between them. -/
def joinedText (first : List Token) (more : List (Text × List Token)) : Text :=
  Text.joinWith [' '] (render first :: more.flatMap fun m => [m.1, render m.2])

/-- A connective with a gap before it. -/
def connective (w : Text) : Token := ⟨.word, w, true⟩

theorem IsConnective.isWord {w : Text} (isConnective : IsConnective w) :
    (connective w).isWord "AND" ∨ (connective w).isWord "OR" :=
  isConnective.imp (fun same => by simp [Token.isWord, connective, same])
    fun same => by simp [Token.isWord, connective, same]

theorem IsConnective.legible {w : Text} (isConnective : IsConnective w) :
    Legible [connective w] := by
  have letters : ["AND", "OR"].all fun word => word.toList.all fun c =>
      isNameStart c && isNamePart c := by
    decide
  refine legible_word ?_ (List.all_eq_true.mp ?_) true
  · rintro rfl
    revert isConnective
    decide
  · rcases isConnective with same | same
    · rw [same]
      exact List.all_eq_true.mp letters "AND" (by simp)
    · rw [same]
      exact List.all_eq_true.mp letters "OR" (by simp)

theorem IsCondition.legible (isCondition : IsCondition c) : Legible c := by
  obtain ⟨text, ts, read, before, after, rfl⟩ := isCondition.read
  exact (legible_of_tokenize read).append_left.append_right

theorem IsCondition.unbroken (isCondition : IsCondition c) : Unbroken c :=
  ⟨isCondition.balanced.depthAt_eq 0, isCondition.noOr, isCondition.ranges⟩

/-- Conditions and connectives as pieces of a text. -/
def pieces (first : List Token) (more : List (Text × List Token)) : List (List Token) :=
  first :: more.flatMap fun m => [[connective m.1], m.2]

theorem legible_pieces {first : List Token} {more : List (Text × List Token)}
    (conditions : ∀ c ∈ first :: more.map (·.2), IsCondition c)
    (connectives : ∀ w ∈ more.map (·.1), IsConnective w) :
    ∀ p ∈ pieces first more, Legible p ∧ p ≠ [] := by
  have condition : ∀ c ∈ first :: more.map (·.2), Legible c ∧ c ≠ [] := fun c mem =>
    ⟨(conditions c mem).legible, (conditions c mem).nonempty⟩
  intro p mem
  rcases List.mem_cons.mp mem with rfl | mem
  · exact condition p (by simp)
  · obtain ⟨m, inMore, mem⟩ := List.mem_flatMap.mp mem
    rw [List.mem_cons, List.mem_singleton] at mem
    rcases mem with rfl | rfl
    · exact ⟨(connectives m.1 (List.mem_map_of_mem inMore)).legible, by simp⟩
    · exact condition m.2 (List.mem_cons_of_mem _ (List.mem_map_of_mem inMore))

theorem spaced_joinedText (first : List Token) (more : List (Text × List Token)) :
    Spaced ((pieces first more).map render) (joinedText first more) := by
  have texts : (pieces first more).map render =
      render first :: more.flatMap fun m => [m.1, render m.2] := by
    simp [pieces, List.map_flatMap, render, connective]
  rw [texts]
  exact .joinWith (List.cons_ne_nil _ _)

/-- The tokens of joined conditions: each condition is spaced but the first. -/
theorem tokenize_joinedText {first : List Token} {more : List (Text × List Token)}
    (conditions : ∀ c ∈ first :: more.map (·.2), IsCondition c)
    (connectives : ∀ w ∈ more.map (·.1), IsConnective w) :
    tokenize (joinedText first more) =
      .ok (joined (marked false first) (more.map fun m => (connective m.1, marked true m.2))) := by
  have nonempty := (conditions first (by simp)).nonempty
  have legible := legible_pieces conditions connectives
  have read := scan_spaced (spaced_joinedText first more) legible (.ended []) false
  have tokens : marked false (together (pieces first more)) =
      joined (marked false first) (more.map fun m => (connective m.1, marked true m.2)) := by
    rw [pieces, together_cons, marked_append (marked_ne_nil nonempty true), marked_marked, joined,
      together, List.flatMap_assoc, List.flatMap_map]
    simp only [List.flatMap_cons, List.flatMap_nil, List.append_nil]
    rfl
  rw [List.append_nil, scan, tokens] at read
  simpa [Except.map] using tokenize_of_scan read

/-- Conditions that are joined by connectives come back from the text one by one, in their order. -/
theorem ofText_joinedText {first : List Token} {more : List (Text × List Token)}
    (conditions : ∀ c ∈ first :: more.map (·.2), IsCondition c)
    (connectives : ∀ w ∈ more.map (·.1), IsConnective w) :
    ofText (joinedText first more) = (first :: more.map (·.2)).map render := by
  have read := tokenize_joinedText conditions connectives
  have split : Conditions.split (joined (marked false first)
        (more.map fun m => (connective m.1, marked true m.2))) =
      marked false first ::
        (more.map fun m => (connective m.1, marked true m.2)).map (·.2) := by
    refine split_joined ?_ ?_
    · rw [List.forall_mem_cons] at conditions ⊢
      refine ⟨⟨conditions.1.unbroken.marked false, marked_ne_nil conditions.1.nonempty false⟩, ?_⟩
      simp only [List.map_map, List.forall_mem_map, Function.comp_apply] at conditions ⊢
      intro m mem
      have isCondition := conditions.2 m mem
      exact ⟨isCondition.unbroken.marked true, marked_ne_nil isCondition.nonempty true⟩
    · simp only [List.map_map, List.forall_mem_map, Function.comp_apply] at connectives ⊢
      exact fun m mem => (connectives m mem).isWord
  rw [ofText, read]
  simp only [split, List.map_cons, render_marked, List.map_map, Function.comp_def]

/-- A range, a group that holds another one beside an `or`, and a plain condition. The connectives
are in mixed case. -/
theorem ofText_joinedText_between :
    (∀ c ∈ ["a between 1 and 2", "(b or c between 3 and 4)", "d"],
      IsCondition (tokensOf c.toList)) ∧
      (∀ w ∈ ["And", "oR"], IsConnective w.toList) ∧
      ofText "a between 1 and 2 And (b or c between 3 and 4) oR d".toList =
        ["a between 1 and 2", "(b or c between 3 and 4)", "d"].map String.toList := by
  have read : ∀ c ∈ ["a between 1 and 2", "(b or c between 3 and 4)", "d"],
      tokenize c.toList = .ok (tokensOf c.toList) := by decide +kernel
  have whole : ∀ c ∈ ["a between 1 and 2", "(b or c between 3 and 4)", "d"],
      tokensOf c.toList ≠ [] ∧ Balanced (tokensOf c.toList) ∧
        (∀ t ∈ outermost 0 (tokensOf c.toList), t.isWord "OR" = false) ∧
        Ranges false ((outermost 0 (tokensOf c.toList)).filter isRangeWord) := by decide +kernel
  have conditions : ∀ c ∈ ["a between 1 and 2", "(b or c between 3 and 4)", "d"],
      IsCondition (tokensOf c.toList) := fun c mem =>
    let ⟨nonempty, balanced, noOr, ranges⟩ := whole c mem
    ⟨nonempty, ⟨_, _, read c mem, List.infix_rfl⟩, balanced, noOr, ranges⟩
  refine ⟨conditions, by decide, ?_⟩
  have cut : ofText (joinedText (tokensOf "a between 1 and 2".toList)
      [("And".toList, tokensOf "(b or c between 3 and 4)".toList),
        ("oR".toList, tokensOf "d".toList)]) = _ :=
    ofText_joinedText (by simpa using conditions) (by decide)
  have written : joinedText (tokensOf "a between 1 and 2".toList)
      [("And".toList, tokensOf "(b or c between 3 and 4)".toList),
        ("oR".toList, tokensOf "d".toList)] =
      "a between 1 and 2 And (b or c between 3 and 4) oR d".toList := by decide +kernel
  rw [written] at cut
  exact cut.trans (by decide +kernel)

end SqlGrader.Conditions
