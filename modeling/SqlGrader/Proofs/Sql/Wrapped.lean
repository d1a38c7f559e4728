import SqlGrader.Proofs.Sql.Fragments
import SqlGrader.Proofs.Sql.Sections
/-!
# Words and parentheses around a fragment

A projection is stripped of the word that it starts with, a condition of the
parentheses around it. Both look at the characters of the text; on texts of
tokens they take away whole tokens, the same ones from akin texts.
-/

namespace SqlGrader

open Token Lexer

variable {t u : Token} {ts us : List Token} {a b rest rest' : Text} {w : String}
  {f : Token → Token}

/-! ### The first word -/

theorem kind_of_isNameStart {c : Char} {cs text : Text} {kind : TokenKind}
    (start : isNameStart c) (reads : Lexeme.read c cs = .token kind text rest) :
    kind = .word := by
  rw [Lexeme.read_of_isNameStart start, Lexeme.plain,
    if_neg (by simp [Lexeme.startsNumber_of_isNameStart start]), if_pos start] at reads
  exact (Lexeme.token.inj reads).1.symm

/-- A text of letters that goes on with no name is the first token. -/
theorem first_word_of_render {c : Char} {cs start : Text} (legible : Legible (t :: ts))
    (letters : ∀ d ∈ start, d.isAlpha) (nonempty : start ≠ []) (ends : isNamePart c = false)
    (same : render (t :: ts) = start ++ c :: cs) :
    t.kind = .word ∧ t.text = start ∧ trail ts = c :: cs := by
  obtain ⟨d, tail, text, reads⟩ := legible.1
  obtain ⟨e, front, rfl⟩ := List.exists_cons_of_ne_nil nonempty
  rw [render_cons, text, List.cons_append, List.cons_append] at same
  obtain ⟨rfl, tails⟩ := List.cons.inj same
  have isStart : isNameStart d := by simp [isNameStart, letters d (by simp)]
  have word := kind_of_isNameStart isStart reads
  rw [word, text, Lexeme.read_eq_word] at reads
  have parts : ∀ f ∈ front, isNamePart f :=
    fun f mem => isNamePart_of_isAlpha (letters f (by simp [mem]))
  have stops : ¬ (c :: cs).head?.any isNamePart := by simp [ends]
  obtain ⟨here, left⟩ := Text.takeWhile_append reads.2.1 reads.2.2
  obtain ⟨there, right⟩ := Text.takeWhile_append parts stops
  rw [tails] at here left
  refine ⟨word, ?_, left.symm.trans right⟩
  rw [text, ← here, there]

/-- White space before plain tokens is the gap before the first of them. -/
theorem spaced_of_trail {c : Char} {cs : Text} (legible : Legible (u :: us)) (plain : u.Plain)
    (blank : Text.isBlank c) (same : trail (u :: us) = c :: cs) :
    u.spaced ∧ cs = render (u :: us) := by
  rw [trail_cons, spacedText] at same
  split at same
  next spaced =>
    rw [List.cons_append] at same
    exact ⟨spaced, (List.cons.inj same).2.symm⟩
  next =>
    obtain ⟨d, tail, text⟩ := List.exists_cons_of_ne_nil legible.1.text_ne_nil
    rw [text, List.cons_append] at same
    obtain ⟨rfl, -⟩ := List.cons.inj same
    exact absurd blank ((legible.1.trimmed plain).head d (by simp [text]))

theorem upper_of_capitals (capitals : ∀ c ∈ w.toList, c.isUpper) :
    Text.upper w.toList = w.toList :=
  (List.map_congr_left fun c mem => Text.toUpper_of_isUpper (capitals c mem)).trans
    (List.map_id _)

/-- A text that goes on after a first word has that word as its first token. -/
theorem exists_of_afterWord? (capitals : ∀ c ∈ w.toList, c.isUpper) (nonempty : w.toList ≠ [])
    (legible : Legible ts) (plain : ∀ t ∈ ts, t.Plain)
    (found : ProjectionItem.afterWord? w (render ts) = some rest) :
    ∃ t u us, ts = t :: u :: us ∧ t.isWord w ∧ u.spaced ∧ rest = render (u :: us) := by
  unfold ProjectionItem.afterWord? at found
  split at found
  next c cs dropped =>
    split at found
    next blank =>
      obtain ⟨start, same, capital⟩ := Text.dropStartIgnoringCase?_eq_some.mp dropped
      rw [upper_of_capitals capitals] at capital
      have letters : ∀ d ∈ start, d.isAlpha := by
        intro d mem
        exact Text.isAlpha_of_toUpper (capitals _ (capital ▸ List.mem_map_of_mem mem))
      have nonempty' : start ≠ [] := by
        rintro rfl
        exact nonempty capital.symm
      cases ts with
      | nil => simp [render] at same
      | cons t ts =>
          obtain ⟨word, text, after⟩ :=
            first_word_of_render legible letters nonempty' (isNamePart_of_isBlank blank) same
          cases ts with
          | nil => cases after
          | cons u us =>
              obtain ⟨spaced, rfl⟩ := spaced_of_trail legible.2 (plain u (by simp)) blank after
              obtain rfl := Option.some.inj found
              refine ⟨t, u, us, rfl, ?_, spaced, ?_⟩
              · simp [isWord, word, text, capital]
              · exact Text.trimStart_eq_self
                  (trimmed_render legible.2 fun v mem => plain v (by simp [mem])).head
    next => cases found
  next => cases found

/-- What is left after the first word is the text of the other tokens. -/
theorem afterWord?_render (capitals : ∀ c ∈ w.toList, c.isUpper) (legible : Legible (u :: us))
    (plain : ∀ v ∈ u :: us, v.Plain) (word : t.isWord w) (spaced : u.spaced) :
    ProjectionItem.afterWord? w (render (t :: u :: us)) = some (render (u :: us)) := by
  have dropped : Text.dropStartIgnoringCase? w.toList (render (t :: u :: us)) =
      some (' ' :: render (u :: us)) := by
    refine Text.dropStartIgnoringCase?_eq_some.mpr ⟨t.text, ?_, ?_⟩
    · rw [render_cons, trail_cons, spacedText, if_pos spaced]
      rfl
    · rw [upper_of_capitals capitals]
      exact upper_of_isWord word
  have blank : Text.isBlank ' ' := rfl
  rw [ProjectionItem.afterWord?, dropped]
  simp only [blank, if_true]
  rw [Text.trimStart_eq_self (trimmed_render legible plain).head]

/-- What is left after a first word in two twins is akin. -/
theorem Token.Twin.afterWord? (twin : Twin f ts us) (capitals : ∀ c ∈ w.toList, c.isUpper)
    (nonempty : w.toList ≠ []) (left : ProjectionItem.afterWord? w (render ts) = some rest)
    (right : ProjectionItem.afterWord? w (render us) = some rest') :
    Akin f rest rest' := by
  obtain ⟨t, v, vs, rfl, -, -, rfl⟩ :=
    exists_of_afterWord? capitals nonempty twin.left twin.plain_left left
  obtain ⟨t', v', vs', rfl, -, -, rfl⟩ :=
    exists_of_afterWord? capitals nonempty twin.right twin.plain_right right
  obtain ⟨_, _, same, -, twin'⟩ := twin.uncons
  obtain ⟨rfl, rfl⟩ := List.cons.inj same
  exact .of_twin twin'

/-- The case of keywords does not decide whether a text goes on after a first word. -/
theorem Token.Twin.isSome_afterWord? (twin : Twin folded ts us)
    (capitals : ∀ c ∈ w.toList, c.isUpper) (nonempty : w.toList ≠ [])
    (found : (ProjectionItem.afterWord? w (render ts)).isSome) :
    (ProjectionItem.afterWord? w (render us)).isSome := by
  obtain ⟨x, found⟩ := Option.isSome_iff_exists.mp found
  obtain ⟨t, v, vs, rfl, word, spaced, rfl⟩ :=
    exists_of_afterWord? capitals nonempty twin.left twin.plain_left found
  obtain ⟨t', us', rfl, first, twin'⟩ := twin.uncons
  obtain ⟨v', vs', rfl, second, -⟩ := twin'.uncons
  rw [afterWord?_render capitals twin'.right twin'.plain_right ?_ ?_, Option.isSome_some]
  · rw [← cosmetic_folded.isWord, ← first, cosmetic_folded.isWord]
    exact word
  · rw [← spaced_folded, ← second]
    exact spaced

/-- Both projections, or neither, go on after a `DISTINCT` or an `ALL` that they start with. -/
def ProjectionItem.StartAlike (a b : Text) : Prop :=
  ∀ w ∈ ["DISTINCT", "ALL"], (afterWord? w a).isSome = (afterWord? w b).isSome

theorem Akin.startAlike (akin : Akin folded a b) : ProjectionItem.StartAlike a b := by
  have words : ∀ w ∈ ["DISTINCT", "ALL"], (∀ c ∈ w.toList, c.isUpper) ∧ w.toList ≠ [] := by
    simp
  obtain ⟨ts, us, twin, rfl, rfl⟩ := akin
  intro w mem
  obtain ⟨capitals, nonempty⟩ := words w mem
  rw [Bool.eq_iff_iff]
  exact ⟨twin.isSome_afterWord? capitals nonempty, twin.symm.isSome_afterWord? capitals nonempty⟩

theorem Akin.afterWord? (akin : Akin f a b) (capitals : ∀ c ∈ w.toList, c.isUpper)
    (nonempty : w.toList ≠ [])
    (start : (ProjectionItem.afterWord? w a).isSome = (ProjectionItem.afterWord? w b).isSome) :
    Option.Rel (Akin f) (ProjectionItem.afterWord? w a) (ProjectionItem.afterWord? w b) := by
  obtain ⟨ts, us, twin, rfl, rfl⟩ := akin
  cases left : ProjectionItem.afterWord? w (render ts) with
  | none =>
      have right : ProjectionItem.afterWord? w (render us) = none := by simpa [left] using start
      rw [right]
      exact .none
  | some x =>
      rw [left] at start
      obtain ⟨y, right⟩ := Option.isSome_iff_exists.mp start.symm
      rw [right]
      exact .some (twin.afterWord? capitals nonempty left right)

theorem Akin.projectionItems (akin : Akin f a b) (cosmetic : Cosmetic f) (s : Scope) :
    (Items.ofText a).map (ProjectionItem.ofText s) =
      (Items.ofText b).map (ProjectionItem.ofText s) :=
  map_eq_of_forall₂ (akin.items cosmetic) fun _ _ item => item.projectionItem cosmetic s

/-- Akin projections that start alike have the same items. -/
theorem Akin.projection (akin : Akin f a b) (cosmetic : Cosmetic f)
    (start : ProjectionItem.StartAlike a b) (s : Scope) :
    ProjectionItem.ofProjection s a = ProjectionItem.ofProjection s b := by
  rw [ProjectionItem.ofProjection, ProjectionItem.ofProjection, akin.trim_left, akin.trim_right]
  have distinct := akin.afterWord? (w := "DISTINCT") (by simp) (by decide) (start _ (by simp))
  have all := akin.afterWord? (w := "ALL") (by simp) (by decide) (start _ (by simp))
  generalize ProjectionItem.afterWord? "DISTINCT" a = x at distinct
  generalize ProjectionItem.afterWord? "DISTINCT" b = y at distinct
  generalize ProjectionItem.afterWord? "ALL" a = v at all
  generalize ProjectionItem.afterWord? "ALL" b = z at all
  cases distinct with
  | some rest => simp only [rest.projectionItems cosmetic s]
  | none =>
      cases all with
      | some rest => simp only [Option.getD_some, rest.projectionItems cosmetic s]
      | none => simp only [Option.getD_none, akin.projectionItems cosmetic s]

/-! ### Outer parentheses -/

namespace Statement

variable {x y : Text}

/-- The text in parentheses. -/
def wrapped (x : Text) : Text := '(' :: (x ++ [')'])

theorem trim_wrapped (x : Text) : Text.trim (wrapped x) = wrapped x := by
  apply Text.Trimmed.trim
  constructor
  · simp [wrapped, Text.isBlank]
  · have last : (wrapped x).getLast? = some ')' := by
      rw [wrapped, ← List.cons_append, List.getLast?_concat]
    simp [last, Text.isBlank]

theorem withoutOuterParens_congr (same : Text.trim x = Text.trim y) :
    withoutOuterParens x = withoutOuterParens y := by
  rw [withoutOuterParens, withoutOuterParens, same]

/-- A text in no parentheses is only trimmed. -/
theorem withoutOuterParens_of_bare (bare : ∀ y, Text.trim x ≠ wrapped y) :
    withoutOuterParens x = Text.trim x := by
  rw [withoutOuterParens]
  generalize Text.trim x = trimmed at bare ⊢
  split
  next rest =>
    have open' : rest.getLast? ≠ some ')' := by
      intro last
      obtain ⟨y, rfl⟩ := List.getLast?_eq_some_iff.mp last
      exact bare y rfl
    simp [open']
  next => rfl

/-- Parentheses around a lone condition are taken away where they match each other. -/
theorem withoutOuterParens_wrapped (read : tokenize x = .ok ts) (own : closesOwn 0 ts)
    (one : (Conditions.ofText x).length = 1) :
    withoutOuterParens (wrapped x) = Text.trim x := by
  rw [withoutOuterParens, trim_wrapped, wrapped]
  simp [read, own, one]

theorem withoutOuterParens_wrapped_eq_self
    (kept : ∀ ts, tokenize x = .ok ts → closesOwn 0 ts → (Conditions.ofText x).length ≠ 1) :
    withoutOuterParens (wrapped x) = wrapped x := by
  rw [withoutOuterParens, trim_wrapped, wrapped]
  cases read : tokenize x with
  | error e => simp [read]
  | ok ts =>
      have more : ¬ (closesOwn 0 ts && (Conditions.ofText x).length == 1) := by
        simpa using kept ts read
      simp [read, more]

end Statement

/-- The tokens without parentheses around all of them, as long as these hold one
condition only. -/
def unwrapped : List Token → List Token
  | [] => []
  | t :: ts =>
    if t.kind == .openParen && ts.getLast?.any (·.kind == .closeParen) &&
        Statement.closesOwn 0 ts.dropLast && (Conditions.split ts.dropLast).length == 1 then
      ts.dropLast
    else t :: ts

theorem openParen_iff {c : Char} {tail : Text} (text : t.text = c :: tail)
    (reads : t.ReadsBefore rest) :
    t.kind = .openParen ↔ c = '(' := by
  obtain ⟨d, tail', text', here⟩ := reads
  obtain ⟨rfl, rfl⟩ := List.cons.inj (text'.symm.trans text)
  constructor
  · intro kind
    rw [kind] at here
    rcases Lexeme.read_cases here with ⟨quote, -⟩ | ⟨mark, -⟩ | ⟨-, plain⟩
    · simp at quote
    · simpa using mark
    · obtain ⟨-, -, -, ⟨kind, -⟩ | ⟨kind, -⟩ | ⟨kind, -⟩⟩ := Lexeme.plain_cases plain <;> cases kind
  · rintro rfl
    rw [Lexeme.read_openParen] at here
    exact (Lexeme.token.inj here).1.symm

theorem openParen_text (reads : t.ReadsBefore rest) (opening : t.kind = .openParen) :
    t.text = ['('] := by
  have first := reads
  obtain ⟨c, tail, text, here⟩ := first
  obtain rfl := (openParen_iff text reads).mp opening
  rw [Lexeme.read_openParen] at here
  exact (Lexeme.token.inj here).2.1.symm

/-- A token that ends with a closing parenthesis is one. -/
theorem closeParen_iff (reads : t.ReadsBefore rest) :
    t.kind = .closeParen ↔ t.text.getLast? = some ')' := by
  obtain ⟨c, tail, text, here⟩ := reads
  constructor
  · intro kind
    rw [kind] at here
    rcases Lexeme.read_cases here with ⟨quote, -⟩ | ⟨mark, single, -⟩ | ⟨-, plain⟩
    · simp at quote
    · have closing : c = ')' := by simpa using mark
      rw [single, closing]
      rfl
    · obtain ⟨-, -, -, ⟨kind, -⟩ | ⟨kind, -⟩ | ⟨kind, -⟩⟩ := Lexeme.plain_cases plain <;> cases kind
  · intro last
    by_cases quoted : t.kind = .stringLiteral ∨ t.kind = .quotedName
    · obtain ⟨quote, body, whole, closes⟩ := Lexeme.read_quoted here quoted
      rw [whole, List.getLast?_cons, getLast?_of_closeQuote? closes] at last
      rcases quote with rfl | rfl <;> simp at last
    · exact (Lexeme.closeParen_of_mem here (List.mem_of_mem_getLast? last)
        (not_or.mp quoted)).1

theorem closeParen_text (reads : t.ReadsBefore rest) (closing : t.kind = .closeParen) :
    t.text = [')'] := by
  have last := (closeParen_iff reads).mp closing
  obtain ⟨c, tail, text, here⟩ := reads
  exact (Lexeme.closeParen_of_mem here (List.mem_of_mem_getLast? last) (by simp [closing])).2

/-- The text between two parentheses has the tokens between them. -/
theorem inner_of_trail {l : Token} {mid : List Token} (legible : Legible (mid ++ [l]))
    (closing : l.kind = .closeParen) :
    ∃ x, trail (mid ++ [l]) = x ++ [')'] ∧ tokenize x = .ok mid ∧
      Text.trim x = Text.trim (render mid) := by
  have text := closeParen_text legible.append_right.1 closing
  rw [trail_append, trail_cons, trail_nil, List.append_nil, spacedText, text]
  cases l.spaced with
  | true =>
      refine ⟨trail mid ++ [' '], by simp, tokenize_of_scan ?_, ?_⟩
      · rw [scan_trail_append legible (.blank _ []), scan_space, Lexer.scan]
        simp [Except.map]
      · rw [Text.trim_append_blank (by decide), trim_trail_eq]
  | false =>
      have read := tokenize_of_scan (scan_trail legible.append_left)
      exact ⟨trail mid, by simp, read, trim_trail_eq mid⟩

/-- Tokens with parentheses around them are written as a text in parentheses. -/
theorem exists_wrapped_of_parens {l : Token} {mid : List Token}
    (legible : Legible (t :: (mid ++ [l]))) (opening : t.kind = .openParen)
    (closing : l.kind = .closeParen) :
    ∃ x, render (t :: (mid ++ [l])) = Statement.wrapped x ∧ tokenize x = .ok mid ∧
      Text.trim x = Text.trim (render mid) := by
  obtain ⟨x, whole, read, left⟩ := inner_of_trail legible.2 closing
  refine ⟨x, ?_, read, left⟩
  rw [render_cons, openParen_text legible.1 opening, whole]
  rfl

/-- Of a text in parentheses the parentheses are tokens. -/
theorem exists_parens_of_wrapped {x : Text} (legible : Legible ts)
    (same : render ts = Statement.wrapped x) :
    ∃ t mid l, ts = t :: (mid ++ [l]) ∧ t.kind = .openParen ∧ l.kind = .closeParen := by
  cases ts with
  | nil => cases same
  | cons t ts =>
      obtain ⟨c, tail, text, -⟩ := legible.1
      rw [render_cons, text, List.cons_append] at same
      obtain ⟨rfl, inner⟩ := List.cons.inj same
      have opening := (openParen_iff text legible.1).mpr rfl
      rw [openParen_text legible.1 opening] at text
      obtain rfl := (List.cons.inj text).2
      rcases List.eq_nil_or_concat ts with rfl | ⟨mid, l, rfl⟩
      · simp at inner
      · rw [List.concat_eq_append] at legible inner ⊢
        have last := legible.2.append_right.1
        refine ⟨t, mid, l, rfl, opening, (closeParen_iff last).mpr ?_⟩
        rw [← getLast?_trail_append mid last.text_ne_nil, ← List.nil_append (trail _), inner,
          List.getLast?_concat]

theorem unwrapped_parens {l : Token} (mid : List Token) (opening : t.kind = .openParen)
    (closing : l.kind = .closeParen) :
    unwrapped (t :: (mid ++ [l])) =
      if Statement.closesOwn 0 mid && (Conditions.split mid).length == 1 then mid
      else t :: (mid ++ [l]) := by
  simp [unwrapped, opening, closing]

theorem unwrapped_eq_self
    (bare : ¬ ∃ t mid l, ts = t :: (mid ++ [l]) ∧ t.kind = .openParen ∧ l.kind = .closeParen) :
    unwrapped ts = ts := by
  cases ts with
  | nil => rfl
  | cons t ts =>
      rw [unwrapped, if_neg]
      intro wraps
      simp only [Bool.and_eq_true, beq_iff_eq] at wraps
      obtain ⟨⟨⟨opening, closing⟩, -⟩, -⟩ := wraps
      rcases List.eq_nil_or_concat ts with rfl | ⟨mid, l, rfl⟩
      · cases closing
      · rw [List.concat_eq_append] at bare closing
        exact bare ⟨t, mid, l, rfl, opening, by simpa using closing⟩

/-- Of a trimmed text of tokens whole tokens are taken away, and what is left is trimmed. -/
theorem withoutOuterParens_of_trimmed (legible : Legible ts) (trimmed : Text.Trimmed (render ts)) :
    Statement.withoutOuterParens (render ts) = Text.trim (render (unwrapped ts)) := by
  by_cases around : ∃ t mid l, ts = t :: (mid ++ [l]) ∧ t.kind = .openParen ∧ l.kind = .closeParen
  · obtain ⟨t, mid, l, rfl, opening, closing⟩ := around
    obtain ⟨x, same, read, left⟩ := exists_wrapped_of_parens legible opening closing
    have conditions : (Conditions.ofText x).length = (Conditions.split mid).length := by
      simp [Conditions.ofText, read]
    rw [unwrapped_parens mid opening closing]
    split
    next wraps =>
      rw [Bool.and_eq_true, beq_iff_eq, ← conditions] at wraps
      rw [same, Statement.withoutOuterParens_wrapped read wraps.1 wraps.2, left]
    next wraps =>
      rw [trimmed.trim, same]
      apply Statement.withoutOuterParens_wrapped_eq_self
      intro us again own one
      obtain rfl := Except.ok.inj (read.symm.trans again)
      exact wraps (by simp [own, ← conditions, one])
  · rw [unwrapped_eq_self around]
    apply Statement.withoutOuterParens_of_bare
    intro x same
    rw [trimmed.trim] at same
    exact around (exists_parens_of_wrapped legible same)

theorem unwrapped_within (ts : List Token) : unwrapped ts <:+: ts := by
  cases ts with
  | nil => exact List.infix_rfl
  | cons t ts =>
      rw [unwrapped]
      split
      · exact (List.dropLast_prefix ts).isInfix.trans (List.suffix_cons t ts).isInfix
      · exact List.infix_rfl

/-- Of the text of plain tokens, whole tokens are taken away. -/
theorem withoutOuterParens_render (legible : Legible ts) (plain : ∀ t ∈ ts, t.Plain) :
    Statement.withoutOuterParens (render ts) = render (unwrapped ts) := by
  have within := unwrapped_within ts
  rw [withoutOuterParens_of_trimmed legible (trimmed_render legible plain)]
  exact (trimmed_render (legible.of_isInfix within) fun t mem => plain t (within.subset mem)).trim

theorem unwrapped_map (neutral : Neutral f) (ts : List Token) :
    unwrapped (ts.map f) = (unwrapped ts).map f := by
  cases ts with
  | nil => rfl
  | cons t ts =>
      have conditions : (Conditions.split ((ts.map f).dropLast)).length =
          (Conditions.split ts.dropLast).length := by
        rw [← List.map_dropLast, Conditions.split,
          neutral.splitTopLevelWith _ neutral.joinsConditions, List.length_map]
        rfl
      have last : (ts.map f).getLast?.any (·.kind == .closeParen) =
          ts.getLast?.any (·.kind == .closeParen) := by
        rw [List.getLast?_map]
        cases ts.getLast? <;> simp [neutral.kind]
      simp only [List.map_cons, unwrapped, neutral.kind, last, conditions]
      rw [← List.map_dropLast, neutral.closesOwn]
      split <;> simp

/-- Akin conditions have the same parentheses around them. -/
theorem Akin.withoutOuterParens (akin : Akin f a b) (cosmetic : Cosmetic f) :
    Akin f (Statement.withoutOuterParens a) (Statement.withoutOuterParens b) := by
  obtain ⟨ts, us, twin, rfl, rfl⟩ := akin
  rw [withoutOuterParens_render twin.left twin.plain_left,
    withoutOuterParens_render twin.right twin.plain_right]
  refine .of_twin (twin.of_within (unwrapped_within ts) (unwrapped_within us) ?_)
  rw [← unwrapped_map cosmetic.neutral, twin.same, unwrapped_map cosmetic.neutral]

end SqlGrader
