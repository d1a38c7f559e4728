import SqlGrader.Proofs.Sql.Rendering
import SqlGrader.Proofs.Sql.Openings
import SqlGrader.Proofs.Text.Cuts
/-!
# Texts made of pieces

A text that is written piece by piece, with spaces between the pieces, has the tokens of its pieces
one after the other. Only the marks of the first tokens change: a piece is spaced where another one
stands before it, whatever stood before it where it was read.
-/

namespace SqlGrader

open Lexer

/-- Texts one after the other, with one or more spaces between two of them. -/
inductive Spaced : List Text → Text → Prop
  | one (piece : Text) : Spaced [piece] piece
  | more {pieces : List Text} {text : Text} (piece : Text) (n : Nat) (later : Spaced pieces text) :
      Spaced (piece :: pieces) (piece ++ ' ' :: (List.replicate n ' ' ++ text))

/-- To join texts with single spaces is one way to space them. -/
theorem Spaced.joinWith {pieces : List Text} (nonempty : pieces ≠ []) :
    Spaced pieces (Text.joinWith [' '] pieces) := by
  induction pieces with
  | nil => exact absurd rfl nonempty
  | cons piece pieces ih =>
      cases pieces with
      | nil => exact .one piece
      | cons next pieces =>
          rw [Text.joinWith_cons_of_ne_nil (by simp), List.append_assoc]
          exact .more piece 0 (ih (by simp))

/-- The second text is the first one, with or without a semicolon after it. -/
inductive Ended (text : Text) : Text → Prop
  | bare : Ended text text
  | semicolon (n : Nat) : Ended text (text ++ (List.replicate n ' ' ++ [';']))

namespace Token

variable {ts us : List Token} {ps : List (List Token)} {text rest : Text}

/-- The tokens, the first of them spaced or not. -/
def marked (spaced : Bool) : List Token → List Token
  | [] => []
  | t :: ts => { t with spaced := spaced } :: ts

theorem marked_append (nonempty : ts ≠ []) (spaced : Bool) (us : List Token) :
    marked spaced (ts ++ us) = marked spaced ts ++ us := by
  cases ts with
  | nil => exact absurd rfl nonempty
  | cons t ts => rfl

theorem marked_ne_nil (nonempty : ts ≠ []) (spaced : Bool) : marked spaced ts ≠ [] := by
  cases ts with
  | nil => exact absurd rfl nonempty
  | cons t ts => exact List.cons_ne_nil _ _

theorem marked_marked (a b : Bool) (ts : List Token) : marked a (marked b ts) = marked a ts := by
  cases ts <;> rfl

@[simp] theorem render_marked (spaced : Bool) (ts : List Token) :
    render (marked spaced ts) = render ts := by
  cases ts <;> rfl

theorem Legible.marked (legible : Legible ts) (spaced : Bool) : Legible (marked spaced ts) := by
  cases ts with
  | nil => trivial
  | cons t ts => exact legible

theorem render_append (nonempty : ts ≠ []) (us : List Token) :
    render (ts ++ us) = render ts ++ trail us := by
  cases ts with
  | nil => exact absurd rfl nonempty
  | cons t ts => rw [List.cons_append, render_cons, render_cons, trail_append, List.append_assoc]

/-- The tokens of pieces that are spaced. -/
def together (ps : List (List Token)) : List Token := ps.flatMap (marked true)

theorem together_cons (p : List Token) (ps : List (List Token)) :
    together (p :: ps) = marked true p ++ together ps :=
  List.flatMap_cons

theorem trail_marked (nonempty : ts ≠ []) : trail (marked true ts) = ' ' :: render ts := by
  cases ts with
  | nil => exact absurd rfl nonempty
  | cons t ts => rfl

theorem marked_together (nonempty : ∀ p ∈ ps, p ≠ []) :
    marked true (together ps) = together ps := by
  cases ps with
  | nil => rfl
  | cons p ps =>
      obtain ⟨t, ts, rfl⟩ := List.exists_cons_of_ne_nil (nonempty p (by simp))
      rfl

/-- Spaced pieces are rendered with single spaces between them. -/
theorem render_together (nonempty : ∀ p ∈ ps, p ≠ []) :
    render (together ps) = Text.joinWith [' '] (ps.map render) := by
  induction ps with
  | nil => rfl
  | cons p ps ih =>
      rw [List.forall_mem_cons] at nonempty
      cases ps with
      | nil => simp [Text.joinWith, together]
      | cons q qs =>
          have more : together (q :: qs) ≠ [] := by
            rw [together_cons]
            exact List.append_ne_nil_of_left_ne_nil (marked_ne_nil (nonempty.2 q (by simp)) true) _
          rw [together_cons, render_append (marked_ne_nil nonempty.1 true), render_marked,
            List.map_cons, Text.joinWith_cons_of_ne_nil (by simp), ← ih nonempty.2,
            ← marked_together nonempty.2, trail_marked more, marked_together nonempty.2,
            List.append_assoc, List.singleton_append]

/-! ### Reading pieces -/

theorem scan_spaces (n : Nat) (r : Text) :
    scan true (List.replicate n ' ' ++ r) = scan true r := by
  induction n with
  | zero => rfl
  | succ n ih => rw [List.replicate_succ, List.cons_append, scan_space, ih]

/-- Tokens are read off a text that goes on as they expect it to. -/
theorem scan_render_echo (legible : Legible (ts ++ us)) (nonempty : ts ≠ [])
    (repeats : Echo (trail us) rest) (spaced : Bool) :
    scan spaced (render ts ++ rest) = (scan false rest).map (marked spaced ts ++ ·) := by
  cases ts with
  | nil => exact absurd rfl nonempty
  | cons t ts =>
      have after : Echo (trail (ts ++ us)) (trail ts ++ rest) := by
        rw [trail_append]
        exact repeats.append_left (trail ts)
      have later := scan_trail_append legible.2 repeats
      rw [render_cons, List.append_assoc, (legible.1.echo after).scan, later]
      cases scan false rest <;> rfl

/-- Legible tokens are read off a text that goes on with a stop. -/
theorem scan_render_append (legible : Legible ts) (nonempty : ts ≠ []) (stops : Echo [] rest)
    (spaced : Bool) :
    scan spaced (render ts ++ rest) = (scan false rest).map (marked spaced ts ++ ·) := by
  have whole : Legible (ts ++ []) := by rwa [List.append_nil]
  exact scan_render_echo whole nonempty stops spaced

/-- Pieces are read one by one. -/
theorem scan_spaced (written : Spaced (ps.map render) text)
    (legible : ∀ p ∈ ps, Legible p ∧ p ≠ []) (stops : Echo [] rest) (spaced : Bool) :
    scan spaced (text ++ rest) = (scan false rest).map (marked spaced (together ps) ++ ·) := by
  induction ps generalizing text spaced with
  | nil => cases written
  | cons p ps ih =>
      rw [List.forall_mem_cons] at legible
      rw [together_cons, marked_append (marked_ne_nil legible.1.2 true), marked_marked]
      generalize pieces : (p :: ps).map render = texts at written
      cases written with
      | one =>
          obtain ⟨rfl, none⟩ := List.cons.inj pieces
          obtain rfl := List.map_eq_nil_iff.mp none
          rw [scan_render_append legible.1.1 legible.1.2 stops]
          simp [together]
      | more piece n later =>
          obtain ⟨rfl, rfl⟩ := List.cons.inj pieces
          have rest' := ih later legible.2 true
          rw [marked_together fun q mem => (legible.2 q mem).2] at rest'
          rw [List.append_assoc, List.cons_append,
            scan_render_append legible.1.1 legible.1.2 (.blank _ _), scan_space, List.append_assoc,
            scan_spaces, rest']
          cases scan false rest <;> simp [Except.map]

/-- The tokens of a text of pieces, with the semicolon after it if there is one. -/
theorem tokenize_spaced {sql : Text} (written : Spaced (ps.map render) text)
    (ended : Ended text sql) (legible : ∀ p ∈ ps, Legible p ∧ p ≠ []) :
    ∃ ends, tokenize sql = .ok (marked false (together ps) ++ ends) ∧
      (ends = [] ∨ ∃ spaced, ends = [⟨.symbol, [';'], spaced⟩]) := by
  cases ended with
  | bare =>
      have read := scan_spaced written legible (.ended []) false
      rw [List.append_nil, scan] at read
      exact ⟨[], tokenize_of_scan read, .inl rfl⟩
  | semicolon n =>
      have semicolon (spaced : Bool) : scan spaced [';'] = .ok [⟨.symbol, [';'], spaced⟩] := by
        have reads : ReadsBefore ⟨.symbol, [';'], false⟩ [] := ⟨';', [], rfl, by decide⟩
        have read := reads.scan spaced
        rw [scan] at read
        exact read
      cases n with
      | zero =>
          have stops : Echo [] [';'] := .stop _ _ rfl
          have read := scan_spaced written legible stops false
          rw [semicolon] at read
          exact ⟨_, tokenize_of_scan read, .inr ⟨false, rfl⟩⟩
      | succ n =>
          have read := scan_spaced written legible (.blank [] (List.replicate n ' ' ++ [';'])) false
          rw [scan_space, scan_spaces, semicolon] at read
          exact ⟨_, tokenize_of_scan read, .inr ⟨true, rfl⟩⟩

/-! ### Keywords -/

/-- A text whose capitals are letters of names is read as a word. -/
theorem legible_word {w : Text} (nonempty : w ≠ [])
    (letters : ∀ c ∈ Text.upper w, isNameStart c && isNamePart c) (spaced : Bool) :
    Legible [⟨.word, w, spaced⟩] := by
  simp only [Text.upper, Bool.and_eq_true, List.forall_mem_map, isNameStart_toUpper,
    isNamePart_toUpper] at letters
  obtain ⟨c, cs, rfl⟩ := List.exists_cons_of_ne_nil nonempty
  have reads : Lexeme.read c (cs ++ []) = .token .word (c :: cs) [] :=
    Lexeme.read_eq_word.mpr ⟨(letters c (by simp)).1,
      fun d mem => (letters d (by simp [mem])).2, by simp⟩
  exact ⟨⟨c, cs, rfl, reads⟩, trivial⟩

/-- A word in any letter case is read as that word. -/
theorem legible_keyword {w : Text} {word : String} (known : word ∈ Boundary.openingWords)
    (same : Text.upper w = word.toList) (spaced : Bool) :
    Legible [⟨.word, w, spaced⟩] := by
  have letters : Boundary.openingWords.all fun word =>
      !word.toList.isEmpty && word.toList.all fun c => isNameStart c && isNamePart c := by
    decide
  have named := List.all_eq_true.mp letters word known
  rw [← same, Bool.and_eq_true, List.all_eq_true] at named
  refine legible_word ?_ named.2 spaced
  rintro rfl
  simp [Text.upper] at named

end Token

end SqlGrader
