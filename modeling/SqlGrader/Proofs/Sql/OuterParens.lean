import SqlGrader.Proofs.Sql.ByteLexer
import SqlGrader.Proofs.Sql.JoinedConditions
import SqlGrader.Proofs.Sql.Wrapped
/-!
# The pair of parentheses around a condition

A condition loses the parentheses around it where they match each other and hold one condition. The
check looks at the ends of the trimmed text and at the tokens between them. Trimming takes away
tokens of other white space than the lexer knows, and may take such a character off a name; no
parenthesis is among these, so what is left is balanced if the condition is. In a balanced text the
parenthesis at the start matches the one at the end if what stands between them is balanced too.
-/

namespace SqlGrader

open Token Lexer

variable {c d : Char} {t : Token} {ts us : List Token} {x rest : Text} {depth : Nat}

/-! ### Balanced tokens -/

namespace Token

/-- A list that closes only what it opens, by the parentheses that its fronts close and open. -/
theorem closesOwn_iff (depth : Nat) (ts : List Token) :
    Statement.closesOwn depth ts ↔ ∀ front ∈ ts.inits,
      front.countP (·.kind == .closeParen) ≤ depth + front.countP (·.kind == .openParen) := by
  induction ts generalizing depth with
  | nil => simp [Statement.closesOwn]
  | cons t ts ih =>
      simp only [List.inits, List.forall_mem_cons, List.forall_mem_map, List.countP_nil,
        List.countP_cons, Nat.zero_le, true_and]
      cases kind : t.kind with
      | openParen =>
          simp only [Statement.closesOwn, kind, depthAfter, ih]
          simp [Nat.add_assoc, Nat.add_comm 1]
      | closeParen =>
          cases depth with
          | zero =>
              simp only [Statement.closesOwn, kind, Bool.false_eq_true, false_iff]
              intro fronts
              have first := fronts [] ((List.mem_inits [] ts).mpr List.nil_prefix)
              simp at first
          | succ depth =>
              simp only [Statement.closesOwn, kind, depthAfter, Nat.add_sub_cancel, ih]
              simp [Nat.add_right_comm depth 1]
      | word | quotedName | stringLiteral | number | comma | symbol =>
          simp [Statement.closesOwn, kind, depthAfter, ih]

namespace Balanced

theorem closesOwn (balanced : Balanced ts) : Statement.closesOwn 0 ts := by
  rw [closesOwn_iff]
  simpa using balanced.fronts

theorem marked (balanced : Balanced ts) (spaced : Bool) : Balanced (marked spaced ts) := by
  cases ts with
  | nil => exact balanced
  | cons t ts =>
      obtain ⟨fronts, closed⟩ := balanced
      simp only [List.inits, List.forall_mem_cons, List.forall_mem_map, List.countP_cons]
        at fronts closed
      refine ⟨?_, ?_⟩
      · simp only [Token.marked, List.inits, List.forall_mem_cons, List.forall_mem_map,
          List.countP_cons]
        exact fronts
      · simpa only [Token.marked, List.countP_cons] using closed

/-- Between the first and the last token of a balanced list, if these are parentheses, stands a
balanced list if it closes only what it opens. -/
theorem inner {l : Token} {mid : List Token} (balanced : Balanced (t :: (mid ++ [l])))
    (opening : t.kind = .openParen) (closing : l.kind = .closeParen)
    (own : Statement.closesOwn 0 mid) : Balanced mid := by
  refine ⟨?_, ?_⟩
  · simpa using (closesOwn_iff 0 mid).mp own
  · have closed := balanced.closed
    simpa [List.countP_append, List.countP_cons, opening, closing] using closed

theorem of_cons (balanced : Balanced (t :: ts)) (noParen : t.isParen = false) : Balanced ts := by
  rw [isParen, Bool.or_eq_false_iff] at noParen
  obtain ⟨fronts, closed⟩ := balanced
  simp only [List.inits, List.forall_mem_cons, List.forall_mem_map, List.countP_cons, noParen,
    Bool.false_eq_true, if_false, Nat.add_zero] at fronts closed
  exact ⟨fronts.2, closed⟩

theorem of_concat (balanced : Balanced (ts ++ [t])) (noParen : t.isParen = false) :
    Balanced ts := by
  rw [isParen, Bool.or_eq_false_iff] at noParen
  refine ⟨?_, ?_⟩
  · intro front isFront
    apply balanced.fronts front
    rw [List.mem_inits] at isFront ⊢
    exact isFront.trans (List.prefix_append ts [t])
  · have closed := balanced.closed
    simpa [List.countP_append, noParen] using closed

end Balanced

/-! ### Trimmed texts of tokens -/

theorem not_isBlank_of_isNumberChar (number : isNumberChar c) : ¬ Text.isBlank c := by
  simp only [isNumberChar, Bool.or_eq_true, beq_iff_eq] at number
  rcases number with ((((digit | rfl) | rfl) | rfl) | rfl) | rfl
  · have range := Text.isDigit_iff.mp digit
    simp only [Text.isBlank, Bool.or_eq_true, Bool.and_eq_true, decide_eq_true_eq, beq_iff_eq]
    omega
  all_goals decide

/-- Only a name and a symbol may start with white space that the lexer does not pass over, and only
parts of a name follow it. -/
theorem ReadsBefore.trimmed_or_blank (reads : t.ReadsBefore rest) :
    Text.Trimmed t.text ∨
      ∃ c tail, t.text = c :: tail ∧ Text.isBlank c ∧ (∀ d ∈ tail, isNamePart d) ∧
        t.isParen = false := by
  by_cases plain : t.Plain
  · exact .inl (reads.trimmed plain)
  obtain ⟨c, tail, text, here⟩ := reads
  have blank : ∃ d ∈ t.text, Text.isBlank d := by
    by_contra none
    exact plain (.inr fun d mem blank => none ⟨d, mem, blank⟩)
  rcases Lexeme.read_cases here with ⟨quote, -⟩ | ⟨mark, single, -⟩ | ⟨-, unmarked⟩
  · exact absurd (.inl (quote.imp And.left And.left)) plain
  · rw [single] at blank
    rcases mark with ⟨-, rfl⟩ | ⟨-, rfl⟩ | ⟨-, rfl⟩ <;> simp [Text.isBlank] at blank
  · obtain ⟨tail', text', -, number | word | symbol⟩ := Lexeme.plain_cases unmarked
    all_goals obtain ⟨-, rfl⟩ := List.cons.inj (text'.symm.trans text)
    · obtain ⟨-, -, -, len⟩ := number
      have chars : ∀ d ∈ c :: tail', isNumberChar d := isNumberChar_of_numberLength len (.inl rfl)
      obtain ⟨d, mem, blank⟩ := blank
      rw [text] at mem
      exact absurd blank (not_isBlank_of_isNumberChar (chars d mem))
    · obtain ⟨kind, -, parts, -⟩ := word
      refine .inr ⟨c, tail', text, ?_, parts, by simp [isParen, kind]⟩
      obtain ⟨d, mem, blank⟩ := blank
      rw [text] at mem
      rcases List.mem_cons.mp mem with rfl | mem
      · exact blank
      · exact absurd blank (not_isBlank_of_isNamePart (parts d mem))
    · obtain ⟨kind, -, -, len⟩ := symbol
      have len' : symbolLength (c :: tail' ++ rest) = (c :: tail').length := len
      rcases symbol_cases len' with ⟨op, known, same⟩ | single
      · have free : operators.all fun op => op.toList.all (!Text.isBlank ·) := by decide
        obtain ⟨d, mem, blank⟩ := blank
        rw [text, ← same] at mem
        simpa [blank] using List.all_eq_true.mp (List.all_eq_true.mp free op known) d mem
      · obtain rfl : tail' = [] := by simpa using single
        have first : Text.isBlank c := by simpa [text] using blank
        exact .inr ⟨c, [], text, first, by simp, by simp [isParen, kind]⟩

/-- Of white space at the start a token of its own is trimmed, or the first character of a name. -/
theorem trim_render_cons (reads : t.ReadsBefore rest) (starts : t.text.head? = some c)
    (blank : Text.isBlank c) (ts : List Token) :
    t.isParen = false ∧ (Text.trim (render (t :: ts)) = Text.trim (render ts) ∨
      ∃ d rest, Text.trim (render (t :: ts)) = d :: rest ∧ isNamePart d) := by
  rcases reads.trimmed_or_blank with trimmed | ⟨b, tail, text, blank, parts, noParen⟩
  · exact absurd blank (trimmed.head c starts)
  refine ⟨noParen, ?_⟩
  rw [render_cons, text, List.cons_append, Text.trim_blank_cons blank]
  cases tail with
  | nil => exact .inl (trim_trail_eq ts)
  | cons d tail =>
      have part := parts d (by simp)
      have solid := not_isBlank_of_isNamePart part
      refine .inr ⟨d, Text.trimEnd (tail ++ trail ts), ?_, part⟩
      rw [List.cons_append, Text.trim, Text.trimStart_eq_self (by simpa using solid)]
      exact Text.trimEnd_append (x := [d]) (by simpa using solid) (tail ++ trail ts)

/-- White space at the end is a token of its own. -/
theorem trim_render_concat (reads : t.ReadsBefore rest) (ends : t.text.getLast? = some c)
    (blank : Text.isBlank c) (ts : List Token) :
    t.isParen = false ∧ Text.trim (render (ts ++ [t])) = Text.trim (render ts) := by
  rcases reads.trimmed_or_blank with trimmed | ⟨b, tail, text, -, parts, noParen⟩
  · exact absurd blank (trimmed.last c ends)
  refine ⟨noParen, ?_⟩
  cases tail with
  | nil =>
      obtain rfl : b = c := by simpa [text] using ends
      cases ts with
      | nil =>
          rw [List.nil_append, render_cons, text, trail_nil, List.append_nil,
            Text.trim_blank_cons blank]
          rfl
      | cons u us =>
          rw [render_append (by simp), trail_cons, trail_nil, List.append_nil, spacedText, text]
          have space : Text.isBlank ' ' := rfl
          apply Text.trim_append_blanks
          split <;> simp [blank, space]
  | cons d tail =>
      rw [text, List.getLast?_cons_cons] at ends
      have part := parts c (List.mem_of_mem_getLast? ends)
      exact absurd blank (not_isBlank_of_isNamePart part)

/-- The trimmed text of balanced tokens is the text of balanced tokens, or starts with a name or a
number. White space is taken away token by token, at the start or at the end. -/
theorem exists_trimmed {ts : List Token} (legible : Legible ts) (balanced : Balanced ts) :
    (∃ us, Legible us ∧ Balanced us ∧ Text.trim (render ts) = render us ∧
        Text.Trimmed (render us)) ∨
      ∃ d rest, Text.trim (render ts) = d :: rest ∧ isNamePart d := by
  by_cases head : ∀ c ∈ (render ts).head?, ¬ Text.isBlank c
  · by_cases last : ∀ c ∈ (render ts).getLast?, ¬ Text.isBlank c
    · exact .inl ⟨ts, legible, balanced, Text.Trimmed.trim ⟨head, last⟩, head, last⟩
    · push Not at last
      obtain ⟨c, ends, blank⟩ := last
      rcases List.eq_nil_or_concat ts with rfl | ⟨us, t, rfl⟩
      · cases ends
      · rw [List.concat_eq_append] at legible balanced ends ⊢
        have reads := legible.append_right.1
        rw [getLast?_render_append us reads.text_ne_nil] at ends
        obtain ⟨noParen, same⟩ := trim_render_concat reads ends blank us
        rw [same]
        exact exists_trimmed legible.append_left (balanced.of_concat noParen)
  · push Not at head
    obtain ⟨c, starts, blank⟩ := head
    cases ts with
    | nil => cases starts
    | cons t us =>
        rw [render_cons, List.head?_append_of_ne_nil _ legible.1.text_ne_nil] at starts
        obtain ⟨noParen, same | name⟩ := trim_render_cons legible.1 starts blank us
        · rw [same]
          exact exists_trimmed legible.2 (balanced.of_cons noParen)
        · exact .inr name
termination_by ts.length
decreasing_by all_goals simp_all

end Token

namespace Statement

/-! ### The pair around a condition -/

/-- The text without its first and its last character. -/
def interior (t : Text) : Text := t.tail.dropLast

/-- Whether the first token is an opening parenthesis that the last token closes. -/
def Enclosed (t : Text) : Prop :=
  ∃ closing mid, tokenize t = .ok (parenthesized false closing mid) ∧ Balanced mid

/-- Whether the parentheses around the text hold one condition. -/
def Unwraps (t : Text) : Prop := Enclosed t ∧ (Conditions.ofText (interior t)).length = 1

/-- What becomes of a trimmed condition. -/
inductive Stripped : Text → Text → Prop
  | inner {x : Text} (unwraps : Unwraps (wrapped x)) : Stripped (wrapped x) (Text.trim x)
  | whole {t : Text} (kept : ¬ Unwraps t) : Stripped t t

@[simp] theorem interior_wrapped (x : Text) : interior (wrapped x) = x := by
  simp [interior, wrapped]

theorem trim_ne_wrapped (x : Text) : Text.trim x ≠ wrapped x := by
  intro same
  have shorter : (Text.trim x).length ≤ x.length := by
    rw [Text.trim, Text.trimEnd, Text.dropEndWhile_eq]
    exact (List.rdropWhile_prefix _ _).length_le.trans (List.dropWhile_suffix _).length_le
  rw [same, wrapped, List.length_cons, List.length_append] at shorter
  omega

namespace Stripped

variable {t r : Text}

theorem eq_self (result : Stripped t r) (kept : ¬ Unwraps t) : r = t := by
  cases result with
  | inner unwraps => exact absurd unwraps kept
  | whole => rfl

theorem eq_of_unwraps (result : Stripped t r) (unwraps : Unwraps t) :
    t = wrapped (interior t) ∧ r = Text.trim (interior t) := by
  cases result with
  | inner => rw [interior_wrapped]; exact ⟨rfl, rfl⟩
  | whole kept => exact absurd unwraps kept

theorem ne_iff (result : Stripped t r) : r ≠ t ↔ Unwraps t := by
  cases result with
  | inner unwraps => exact iff_of_true (trim_ne_wrapped _) unwraps
  | whole kept => exact iff_of_false (fun differs => differs rfl) kept

end Stripped

theorem enclosed_iff (legible : Legible ts) :
    Enclosed (render ts) ↔ ∃ t mid l, ts = t :: (mid ++ [l]) ∧ t.kind = .openParen ∧
      l.kind = .closeParen ∧ Balanced mid := by
  rw [Enclosed, tokenize_render legible]
  constructor
  · rintro ⟨closing, mid, same, balanced⟩
    cases ts with
    | nil => cases same
    | cons t us =>
        obtain ⟨first, rfl⟩ := List.cons.inj (Except.ok.inj same)
        exact ⟨t, mid, _, rfl, congrArg Token.kind first, rfl, balanced⟩
  · rintro ⟨t, mid, l, rfl, opening, closing, balanced⟩
    refine ⟨l.spaced, mid, ?_, balanced⟩
    have first := openParen_text legible.1 opening
    have last := closeParen_text legible.2.append_right.1 closing
    rw [atStart, parenthesized, opening, first, ← closing, ← last]

/-- A text that starts with a name or a number is in no parentheses. -/
theorem not_enclosed_of_isNamePart (part : isNamePart d) : ¬ Enclosed (d :: rest) := by
  rintro ⟨closing, mid, read, -⟩
  obtain ⟨kind, text, after, unmarked⟩ := ByteLexer.plain_isToken d rest
  have scanned := scan_of_tokenize read
  rw [scan_of_token ((Lexeme.read_of_isNamePart part rest).trans unmarked)] at scanned
  obtain ⟨us, -, tokens⟩ := exists_of_map_eq_ok scanned
  have first : .openParen = kind := congrArg Token.kind (List.cons.inj tokens).1
  obtain ⟨-, -, -, ⟨other, -⟩ | ⟨other, -⟩ | ⟨other, -⟩⟩ := Lexeme.plain_cases unmarked
  all_goals cases first.trans other

/-- Of balanced tokens the pair around a lone condition is taken away and nothing else. -/
theorem stripped_of_trimmed (legible : Legible ts) (balanced : Balanced ts)
    (trimmed : Text.Trimmed (render ts)) :
    Stripped (render ts) (withoutOuterParens (render ts)) := by
  by_cases around : ∃ t mid l, ts = t :: (mid ++ [l]) ∧ t.kind = .openParen ∧ l.kind = .closeParen
  · obtain ⟨t, mid, l, rfl, opening, closing⟩ := around
    have enclosed := enclosed_iff legible
    obtain ⟨x, same, read, -⟩ := exists_wrapped_of_parens legible opening closing
    rw [same] at enclosed ⊢
    by_cases unwraps : Unwraps (wrapped x)
    · obtain ⟨t', mid', l', parts, -, -, inner⟩ := enclosed.mp unwraps.1
      obtain ⟨rfl, -⟩ := List.append_inj' (List.cons.inj parts).2 rfl
      have one := unwraps.2
      rw [interior_wrapped] at one
      rw [withoutOuterParens_wrapped read inner.closesOwn one]
      exact .inner unwraps
    · rw [withoutOuterParens_wrapped_eq_self]
      · exact .whole unwraps
      · intro us again own one
        obtain rfl := Except.ok.inj (read.symm.trans again)
        have inner := balanced.inner opening closing own
        apply unwraps
        refine ⟨enclosed.mpr ⟨t, mid, l, rfl, opening, closing, inner⟩, ?_⟩
        rwa [interior_wrapped]
  · have bare : withoutOuterParens (render ts) = render ts := by
      rw [withoutOuterParens_of_bare, trimmed.trim]
      intro x same
      rw [trimmed.trim] at same
      exact around (exists_parens_of_wrapped legible same)
    rw [bare]
    apply Stripped.whole
    rintro ⟨enclosed, -⟩
    obtain ⟨t, mid, l, parts, opening, closing, -⟩ := (enclosed_iff legible).mp enclosed
    exact around ⟨t, mid, l, parts, opening, closing⟩

theorem stripped (legible : Legible ts) (balanced : Balanced ts) :
    Stripped (Text.trim (render ts)) (withoutOuterParens (render ts)) := by
  obtain ⟨us, legible', balanced', same, trimmed⟩ | ⟨d, rest, same, part⟩ :=
    exists_trimmed legible balanced
  · have result : withoutOuterParens (render ts) = withoutOuterParens (render us) :=
      withoutOuterParens_congr (same.trans trimmed.trim.symm)
    rw [same, result]
    exact stripped_of_trimmed legible' balanced' trimmed
  · rw [withoutOuterParens_of_bare, same]
    · exact .whole fun unwraps => not_enclosed_of_isNamePart part unwraps.1
    · rintro y opening
      obtain ⟨rfl, -⟩ := List.cons.inj (same.symm.trans opening)
      cases part

/-! ### Conditions in parentheses -/

/-- Legible tokens are read off a text that goes on with a closing parenthesis. -/
theorem scan_render_closeParen (legible : Legible ts) (more : Text) :
    scan false (render ts ++ ')' :: more) =
      (scan false more).map fun us => marked false ts ++ ⟨.closeParen, [')'], false⟩ :: us := by
  have closing : scan false (')' :: more) =
      (scan false more).map (⟨.closeParen, [')'], false⟩ :: ·) :=
    scan_of_token rfl false
  cases ts with
  | nil => exact closing
  | cons t us =>
      rw [scan_render_append legible (by simp) (.stop _ _ rfl), closing]
      cases scan false more <;> rfl

theorem tokenize_wrapped (legible : Legible ts) :
    tokenize (wrapped (render ts)) = .ok (parenthesized false false (marked false ts)) := by
  apply tokenize_of_scan
  rw [wrapped, scan_of_token (Lexeme.read_openParen _), scan_render_closeParen legible [], scan]
  rfl

/-- Behind tokens inside of parentheses everything outside of them is still to come. -/
theorem outermost_append (inside : ∀ front, front <+: ts → 0 < depthAt depth front)
    (us : List Token) :
    Conditions.outermost depth (ts ++ us) = Conditions.outermost (depthAt depth ts) us := by
  induction ts generalizing depth with
  | nil => rfl
  | cons t ts ih =>
      have deep : 0 < depth := inside [] List.nil_prefix
      have isGroup : t.isParen || depth != 0 := by
        simp only [Bool.or_eq_true, bne_iff_ne]
        omega
      have later := ih fun front isFront =>
        inside (t :: front) (List.cons_prefix_cons.mpr ⟨rfl, isFront⟩)
      rw [List.cons_append, Conditions.outermost, if_pos isGroup, later]
      rfl

/-- Nothing joins conditions in a group. -/
theorem unbroken_parenthesized (balanced : Balanced ts) (opening closing : Bool) :
    Conditions.Unbroken (parenthesized opening closing ts) := by
  have deep := balanced.depthAt_eq 1
  have none : Conditions.outermost 0 (parenthesized opening closing ts) = [] := by
    have first : Conditions.outermost 0 (parenthesized opening closing ts) =
        Conditions.outermost 1 (ts ++ [⟨.closeParen, [')'], closing⟩]) := rfl
    rw [first, outermost_append (fun front isFront => balanced.le_depthAt 1 isFront), deep]
    rfl
  refine ⟨?_, by simp [none], by simpa [none] using .done⟩
  have whole : depthAt 0 (parenthesized opening closing ts) =
      depthAt (depthAt 1 ts) [⟨.closeParen, [')'], closing⟩] := depthAt_append 1 ts _
  rw [whole, deep]
  rfl

/-- Balanced tokens in parentheses are one condition. -/
theorem ofText_wrapped (legible : Legible ts) (balanced : Balanced ts) :
    Conditions.ofText (wrapped (render ts)) = [wrapped (render ts)] := by
  have group := unbroken_parenthesized (balanced.marked false) false false
  have alone := group.split_eq (List.cons_ne_nil _ _)
  have inner : trail (marked false ts) = render ts := by
    cases ts <;> rfl
  have text : render (parenthesized false false (marked false ts)) = wrapped (render ts) := by
    rw [parenthesized, render_cons, trail_append, inner]
    rfl
  rw [Conditions.ofText, tokenize_wrapped legible]
  simp only [alone, List.map_cons, List.map_nil, text]

/-- A condition in parentheses counts as the condition without them. -/
theorem conditions_wrapped (legible : Legible ts) (balanced : Balanced ts)
    (single : Conditions.ofText (render ts) = [render ts])
    (bare : ¬ Enclosed (Text.trim (render ts))) (s : Statement) (withAliases : Bool) :
    s.conditions withAliases (wrapped (render ts)) = s.conditions withAliases (render ts) := by
  have read : tokenize (render ts) = .ok (marked false ts) := by
    rw [tokenize_render legible]
    cases ts <;> rfl
  have own := (balanced.marked false).closesOwn
  have one : (Conditions.ofText (render ts)).length = 1 := by rw [single]; rfl
  have kept : withoutOuterParens (render ts) = Text.trim (render ts) :=
    (stripped legible balanced).eq_self fun unwraps => bare unwraps.1
  rw [conditions, conditions, ofText_wrapped legible balanced, single, List.map_singleton,
    List.map_singleton, withoutOuterParens_wrapped read own one, kept]

/-- Around conditions that are not one the parentheses stay. -/
theorem withoutOuterParens_conjunction (several : (Conditions.ofText x).length ≠ 1) :
    withoutOuterParens (wrapped x) = wrapped x :=
  withoutOuterParens_wrapped_eq_self fun _ _ _ => several

/-- Of two groups the parentheses at the ends do not match. -/
theorem withoutOuterParens_groups (legible : Legible ts) (balanced : Balanced ts)
    (between other : Text) :
    withoutOuterParens (wrapped (render ts) ++ between ++ wrapped other) =
      wrapped (render ts) ++ between ++ wrapped other := by
  have whole : wrapped (render ts) ++ between ++ wrapped other =
      wrapped (render ts ++ ')' :: (between ++ '(' :: other)) := by
    simp [wrapped]
  rw [whole]
  apply withoutOuterParens_wrapped_eq_self
  intro us read own
  have scanned := scan_of_tokenize read
  rw [scan_render_closeParen legible] at scanned
  obtain ⟨vs, -, rfl⟩ := exists_of_map_eq_ok scanned
  -- The parenthesis that closes the first group closes what the group does not open.
  have fronts := (closesOwn_iff 0 _).mp own (marked false ts ++ [⟨.closeParen, [')'], false⟩])
    ((List.mem_inits _ _).mpr ⟨vs, by simp⟩)
  have closed := (balanced.marked false).closed
  simp [List.countP_append, closed] at fronts

/-- Parentheses are taken away from a condition where they match each other and hold one condition,
and what is left is the text between them, trimmed. A balanced condition has the same canonical
text with parentheses around it and without. Two groups and a group of several conditions stay as
they are. -/
theorem withoutOuterParens_unwraps {sql : Text} (read : tokenize sql = .ok us) (part : ts <:+: us)
    (balanced : Balanced ts) :
    (withoutOuterParens (render ts) ≠ Text.trim (render ts) ↔ Unwraps (Text.trim (render ts))) ∧
      (Unwraps (Text.trim (render ts)) →
        Text.trim (render ts) = wrapped (interior (Text.trim (render ts))) ∧
          withoutOuterParens (render ts) = Text.trim (interior (Text.trim (render ts)))) ∧
      (Conditions.ofText (render ts) = [render ts] → ¬ Enclosed (Text.trim (render ts)) →
        ∀ (s : Statement) (withAliases : Bool),
          s.conditions withAliases (wrapped (render ts)) =
            s.conditions withAliases (render ts)) ∧
      (∀ between other, withoutOuterParens (wrapped (render ts) ++ between ++ wrapped other) =
        wrapped (render ts) ++ between ++ wrapped other) ∧
      ((Conditions.ofText (render ts)).length ≠ 1 →
        withoutOuterParens (wrapped (render ts)) = wrapped (render ts)) := by
  have legible := (legible_of_tokenize read).of_isInfix part
  have result := stripped legible balanced
  exact ⟨result.ne_iff, result.eq_of_unwraps, conditions_wrapped legible balanced,
    withoutOuterParens_groups legible balanced, withoutOuterParens_conjunction⟩

/-- A range in parentheses, with white space inside of them and a group at its end. -/
def groupedRange : Text := "d or ( a between 1 and (2) )".toList

theorem withoutOuterParens_unwraps_range :
    tokenize groupedRange = .ok (tokensOf groupedRange) ∧
      (tokensOf groupedRange).drop 2 <:+: tokensOf groupedRange ∧
      Balanced ((tokensOf groupedRange).drop 2) ∧
      withoutOuterParens "( a between 1 and (2) )".toList = "a between 1 and (2)".toList ∧
      ((tokensOf groupedRange).drop 3).dropLast <:+: tokensOf groupedRange ∧
      Balanced ((tokensOf groupedRange).drop 3).dropLast ∧
      ∀ (s : Statement) (withAliases : Bool),
        s.conditions withAliases "(a between 1 and (2))".toList =
          s.conditions withAliases "a between 1 and (2)".toList := by
  have read : tokenize groupedRange = .ok (tokensOf groupedRange) := by decide +kernel
  have group : (tokensOf groupedRange).drop 2 <:+: tokensOf groupedRange :=
    (List.drop_suffix 2 _).isInfix
  have range : ((tokensOf groupedRange).drop 3).dropLast <:+: tokensOf groupedRange :=
    (List.dropLast_prefix _).isInfix.trans (List.drop_suffix 3 _).isInfix
  have closed : Balanced ((tokensOf groupedRange).drop 2) := by decide +kernel
  have closed' : Balanced ((tokensOf groupedRange).drop 3).dropLast := by decide +kernel
  have text : render ((tokensOf groupedRange).drop 2) = "( a between 1 and (2) )".toList := by
    decide +kernel
  have text' : render ((tokensOf groupedRange).drop 3).dropLast = "a between 1 and (2)".toList := by
    decide +kernel
  have unwraps : Unwraps (Text.trim "( a between 1 and (2) )".toList) := by
    refine ⟨⟨true, ((tokensOf groupedRange).drop 3).dropLast, ?_, closed'⟩, ?_⟩
    · decide +kernel
    · decide +kernel
  have single :
      Conditions.ofText "a between 1 and (2)".toList = ["a between 1 and (2)".toList] := by
    decide +kernel
  have bare : ¬ Enclosed (Text.trim "a between 1 and (2)".toList) :=
    not_enclosed_of_isNamePart (d := 'a') (by decide)
  have stripped := (withoutOuterParens_unwraps read group closed).2.1
  have same := (withoutOuterParens_unwraps read range closed').2.2.1
  rw [text] at stripped
  rw [text'] at same
  refine ⟨read, group, closed, ?_, range, closed', same single bare⟩
  rw [(stripped unwraps).2]
  decide +kernel

/-- A connective at the start of a condition is dropped where the condition is cut out, as in
`AND b`, but not where it stands in parentheses. Such a condition is cut out of a text in which a
`BETWEEN` still waits for its `AND`. -/
theorem conditions_wrapped_connective :
    tokenize "AND b".toList = .ok (tokensOf "AND b".toList) ∧
      render (tokensOf "AND b".toList) = "AND b".toList ∧ Balanced (tokensOf "AND b".toList) ∧
      "AND b".toList ∈ Conditions.ofText "a BETWEEN 1 OR AND b".toList ∧
      (Conditions.ofText "AND b".toList).length = 1 ∧ ¬ Enclosed (Text.trim "AND b".toList) ∧
      (ofText "SELECT a FROM t".toList).conditions false (wrapped "AND b".toList) =
        ["AND b".toList] ∧
      (ofText "SELECT a FROM t".toList).conditions false "AND b".toList = ["b".toList] := by
  have read : tokenize "AND b".toList = .ok (tokensOf "AND b".toList) := by decide +kernel
  have text : render (tokensOf "AND b".toList) = "AND b".toList := by decide +kernel
  have balanced : Balanced (tokensOf "AND b".toList) := by decide +kernel
  have condition : "AND b".toList ∈ Conditions.ofText "a BETWEEN 1 OR AND b".toList := by
    decide +kernel
  have bare : ¬ Enclosed (Text.trim "AND b".toList) :=
    not_enclosed_of_isNamePart (d := 'A') (by decide)
  have one : (Conditions.ofText "AND b".toList).length = 1 := by decide +kernel
  exact ⟨read, text, balanced, condition, one, bare, by decide +kernel, by decide +kernel⟩

end Statement

end SqlGrader
