import SqlGrader.Proofs.Sql.Lookahead
/-!
# Rendered tokens are read back

Tokens are *legible* if each of them is read off the text that `Token.render`
makes of it and the tokens after it. The tokens of a statement are legible, and
so are parts of a legible list and the list with its keywords in capitals.
Legible tokens are read back from their text one for one, so two lists that
render to the same text are the same list. The mark of the first token is the
exception: nothing stands before it in the text.
-/

namespace SqlGrader.Token

open Lexer

variable {t : Token} {ts us : List Token} {rest r sql : Text} {b : Bool}

/-- The texts of tokens that stand after another token. -/
def trail (ts : List Token) : Text := ts.flatMap spacedText

@[simp] theorem trail_nil : trail [] = [] := rfl

theorem trail_cons (t : Token) (ts : List Token) : trail (t :: ts) = t.spacedText ++ trail ts :=
  rfl

theorem trail_append (ts us : List Token) : trail (ts ++ us) = trail ts ++ trail us :=
  List.flatMap_append

theorem render_cons (t : Token) (ts : List Token) : render (t :: ts) = t.text ++ trail ts :=
  rfl

/-- Whether the token is read off the text that it and `rest` make up. -/
def ReadsBefore (t : Token) (rest : Text) : Prop :=
  ∃ c tail, t.text = c :: tail ∧ Lexeme.read c (tail ++ rest) = .token t.kind t.text rest

/-- Tokens each of which is read off the text of it and the tokens after it. -/
def Legible : List Token → Prop
  | [] => True
  | t :: ts => t.ReadsBefore (trail ts) ∧ Legible ts

/-- The tokens with nothing in front of the first. -/
def atStart : List Token → List Token
  | [] => []
  | t :: ts => { t with spaced := false } :: ts

@[simp] theorem kind_folded (t : Token) : t.folded.kind = t.kind := rfl

@[simp] theorem text_folded (t : Token) : t.folded.text = t.foldedText := rfl

@[simp] theorem spaced_folded (t : Token) : t.folded.spaced = t.spaced := rfl

/-! ### One token -/

theorem exists_of_map_eq_ok {ε α β : Type} {x : Except ε α} {f : α → β} {done : β}
    (mapped : x.map f = .ok done) : ∃ a, x = .ok a ∧ done = f a := by
  cases x with
  | error e => cases mapped
  | ok a => exact ⟨a, rfl, (Except.ok.inj mapped).symm⟩

theorem scan_of_token {c : Char} {cs text : Text} {kind : TokenKind}
    (reads : Lexeme.read c cs = .token kind text rest) (b : Bool) :
    Lexer.scan b (c :: cs) = (Lexer.scan false rest).map (⟨kind, text, b⟩ :: ·) := by
  rw [Lexer.scan]
  split
  next found => cases found.symm.trans reads
  next found =>
    obtain ⟨rfl, rfl, rfl⟩ := Lexeme.token.inj (found.symm.trans reads)
    rfl
  next found => cases found.symm.trans reads

namespace ReadsBefore

/-- What is read at the start of a text is read off its own text and what comes next. -/
theorem of_read {c : Char} {cs text : Text} {kind : TokenKind}
    (reads : Lexeme.read c cs = .token kind text rest) (b : Bool) :
    ReadsBefore ⟨kind, text, b⟩ rest := by
  obtain ⟨whole, nonempty⟩ := Lexeme.read_parts (by rw [reads]; rfl)
  obtain ⟨d, tail, rfl⟩ := List.exists_cons_of_ne_nil nonempty
  obtain ⟨rfl, rfl⟩ := List.cons.inj whole
  exact ⟨c, tail, rfl, reads⟩

theorem text_ne_nil (reads : t.ReadsBefore rest) : t.text ≠ [] := by
  obtain ⟨c, tail, same, -⟩ := reads
  simp [same]

/-- What echoes the text after a token does not change the token. -/
theorem echo (reads : t.ReadsBefore rest) (repeats : Echo rest r) : t.ReadsBefore r := by
  obtain ⟨c, tail, same, here⟩ := reads
  refine ⟨c, tail, same, ?_⟩
  have after := Lexeme.read_echo here repeats
  rwa [same, List.tail_cons, ← same] at after

theorem scan (reads : t.ReadsBefore rest) (b : Bool) :
    Lexer.scan b (t.text ++ rest) =
      (Lexer.scan false rest).map ({ t with spaced := b } :: ·) := by
  obtain ⟨c, tail, same, here⟩ := reads
  conv_lhs => rw [same, List.cons_append, scan_of_token here]

end ReadsBefore

theorem isFoldable_word (fold : t.isFoldable) : t.kind = .word := by
  simp only [isFoldable, Bool.and_eq_true, beq_iff_eq] at fold
  exact fold.1

/-- A word is read in capitals where it is read in its own letters. -/
theorem ReadsBefore.folded (reads : t.ReadsBefore rest) : t.folded.ReadsBefore rest := by
  by_cases fold : t.isFoldable
  · obtain ⟨c, tail, same, here⟩ := reads
    have word := isFoldable_word fold
    rw [word, same, Lexeme.read_eq_word] at here
    have capitals : t.folded.text = c.toUpper :: Text.upper tail := by
      simp [Token.folded, foldedText, fold, same, Text.upper]
    refine ⟨c.toUpper, Text.upper tail, capitals, ?_⟩
    rw [capitals, Token.folded, word, Lexeme.read_eq_word, isNameStart_toUpper]
    refine ⟨here.1, ?_, here.2.2⟩
    intro d mem
    obtain ⟨d', mem', rfl⟩ := List.mem_map.mp mem
    rw [isNamePart_toUpper]
    exact here.2.1 d' mem'
  · simpa [Token.folded, foldedText, fold] using reads

theorem scan_space (b : Bool) (r : Text) : Lexer.scan b (' ' :: r) = Lexer.scan true r := by
  rw [Lexer.scan]
  rfl

/-- The mark of the first token does not decide whether a text has tokens. -/
theorem scan_error {e : Delimited × Text} (refused : Lexer.scan b sql = .error e) (b' : Bool) :
    Lexer.scan b' sql = .error e := by
  cases sql with
  | nil =>
      rw [Lexer.scan] at refused
      cases refused
  | cons c cs =>
      rw [Lexer.scan] at refused ⊢
      split at refused
      next => exact refused
      next kind text rest found =>
        cases next : Lexer.scan false rest with
        | error e' => simpa [next, Except.map] using refused
        | ok ts =>
            rw [next] at refused
            cases refused
      next => exact refused

/-! ### Reading tokens back -/

/-- Tokens are read off a text that goes on as they expect it to. -/
theorem scan_trail_append (legible : Legible (ts ++ us)) (repeats : Echo (trail us) rest) :
    Lexer.scan false (trail ts ++ rest) = (Lexer.scan false rest).map (ts ++ ·) := by
  induction ts with
  | nil =>
      rw [trail_nil, List.nil_append]
      cases Lexer.scan false rest <;> rfl
  | cons t ts ih =>
      obtain ⟨reads, legible⟩ := legible
      have after : Echo (trail (ts ++ us)) (trail ts ++ rest) := by
        rw [trail_append]
        exact repeats.append_left (trail ts)
      have here := (reads.echo after).scan t.spaced
      rw [ih legible] at here
      rw [trail_cons, spacedText]
      cases spaced : t.spaced with
      | true =>
          rw [spaced] at here
          rw [if_pos rfl, List.cons_append, List.cons_append, scan_space, List.append_assoc, here]
          cases Lexer.scan false rest <;> simp [Except.map, ← spaced]
      | false =>
          rw [spaced] at here
          rw [if_neg (by simp), List.append_assoc, here]
          cases Lexer.scan false rest <;> simp [Except.map, ← spaced]

theorem scan_trail (legible : Legible ts) : Lexer.scan false (trail ts) = .ok ts := by
  have read : Lexer.scan false (trail ts ++ []) = _ :=
    scan_trail_append ((List.append_nil ts).symm ▸ legible) (.ended (trail []))
  rw [List.append_nil, Lexer.scan] at read
  simpa [Except.map] using read

theorem tokenize_of_scan (read : Lexer.scan false sql = .ok ts) : tokenize sql = .ok ts := by
  rw [tokenize, read]
  rfl

/-- Legible tokens are read back from their text. -/
theorem tokenize_render (legible : Legible ts) : tokenize (render ts) = .ok (atStart ts) := by
  refine tokenize_of_scan ?_
  cases ts with
  | nil => rw [render, Lexer.scan]; rfl
  | cons t ts =>
      rw [render_cons, legible.1.scan, scan_trail legible.2]
      rfl

/-- Two legible lists with the same text are the same but for the mark of the
first token. -/
theorem atStart_eq_of_render_eq (ht : Legible ts) (hu : Legible us)
    (same : render ts = render us) :
    atStart ts = atStart us := by
  have back := tokenize_render ht
  rw [same, tokenize_render hu] at back
  exact (Except.ok.inj back).symm

@[simp] theorem render_atStart (ts : List Token) : render (atStart ts) = render ts := by
  cases ts <;> rfl

theorem render_eq_nil (legible : Legible ts) : render ts = [] ↔ ts = [] := by
  cases ts with
  | nil => simp [render]
  | cons t ts => simp [render_cons, legible.1.text_ne_nil]

/-! ### The tokens of a statement -/

/-- The tokens that are read off a text are legible. Their own text repeats the
text up to the first thing that is not a token; after a gap it starts with a
space and repeats any text. -/
theorem legible_of_scan (read : Lexer.scan b sql = .ok ts) :
    Legible ts ∧ Echo sql (trail ts) ∧ (b → ∀ s, Echo s (trail ts)) := by
  fun_induction Lexer.scan b sql generalizing ts with
  | case1 =>
      obtain rfl := Except.ok.inj read
      exact ⟨trivial, .ended _, fun _ => .ended⟩
  | case2 spaced c cs gap rest found ih =>
      obtain ⟨legible, -, any⟩ := ih read
      exact ⟨legible, any rfl _, fun _ => any rfl⟩
  | case3 spaced c cs kind text rest found ih =>
      obtain ⟨us, next, rfl⟩ := exists_of_map_eq_ok read
      obtain ⟨legible, repeats, -⟩ := ih next
      obtain ⟨whole, -⟩ := Lexeme.read_parts (by rw [found]; rfl)
      refine ⟨⟨(ReadsBefore.of_read found spaced).echo repeats, legible⟩, ?_, ?_⟩
      · rw [whole]
        cases spaced with
        | true => exact .blank _ _
        | false => exact repeats.append_left text
      · rintro rfl s
        exact .blank _ _
  | case4 spaced c cs what found => cases read

theorem scan_of_tokenize (read : tokenize sql = .ok ts) : Lexer.scan false sql = .ok ts := by
  cases scanned : Lexer.scan false sql with
  | error e =>
      rw [tokenize, scanned] at read
      cases read
  | ok us =>
      rw [tokenize, scanned] at read
      exact congrArg Except.ok (Except.ok.inj read)

theorem legible_of_tokenize (read : tokenize sql = .ok ts) : Legible ts :=
  (legible_of_scan (scan_of_tokenize read)).1

/-! ### Legible lists -/

@[simp] theorem upper_foldedText (t : Token) : Text.upper t.foldedText = Text.upper t.text := by
  unfold foldedText
  split <;> simp

theorem upper_trail_map_folded (ts : List Token) :
    Text.upper (trail (ts.map folded)) = Text.upper (trail ts) := by
  induction ts with
  | nil => rfl
  | cons t ts ih =>
      simp only [Text.upper, List.map_cons, trail_cons, List.map_append] at ih ⊢
      rw [ih]
      have here := upper_foldedText t
      by_cases spaced : t.spaced <;> simp_all [spacedText, folded, Text.upper]

theorem upper_render_map_folded (ts : List Token) :
    Text.upper (render (ts.map folded)) = Text.upper (render ts) := by
  cases ts with
  | nil => rfl
  | cons t ts =>
      have rest := upper_trail_map_folded ts
      have here := upper_foldedText t
      simp only [Text.upper, List.map_cons, render_cons, List.map_append, text_folded]
        at rest here ⊢
      rw [here, rest]

namespace Legible

theorem append_left (legible : Legible (ts ++ us)) : Legible ts := by
  induction ts with
  | nil => trivial
  | cons t ts ih =>
      obtain ⟨reads, legible⟩ := legible
      rw [List.append_eq, trail_append] at reads
      exact ⟨reads.echo (.of_isPrefix _ _), ih legible⟩

theorem append_right (legible : Legible (ts ++ us)) : Legible us := by
  induction ts with
  | nil => exact legible
  | cons t ts ih => exact ih legible.2

theorem atStart (legible : Legible ts) : Legible (atStart ts) := by
  cases ts with
  | nil => trivial
  | cons t ts => exact legible

/-- Capitals for keywords leave tokens legible. -/
theorem map_folded (legible : Legible ts) : Legible (ts.map folded) := by
  induction ts with
  | nil => trivial
  | cons t ts ih =>
      refine ⟨legible.1.folded.echo (.of_upper ?_), ih legible.2⟩
      exact (upper_trail_map_folded ts).symm

end Legible

end SqlGrader.Token
