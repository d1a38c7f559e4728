import SqlGrader.Proofs.Sql.NormalForm
import SqlGrader.Proofs.Sql.TokenText
import SqlGrader.Proofs.Sql.Wordwise
/-!
# When a normal form is its own normal form

Both ways of reading a statement are stable by themselves. A second pass differs
from the first only if it reads the statement another way: a statement without
tokens can have a normal form with tokens, whose keywords are told apart by
other word boundaries. Such a normal form is kept if all keywords among its
tokens are in capitals already.
-/

namespace SqlGrader.NormalForm

open Token Wordwise

variable {t : Token} {ts : List Token} {sql u : Text} {b : Bool}

/-! ### Statements with tokens -/

theorem normalize_of_error {e : LexError} (refused : tokenize sql = .error e) :
    normalize sql = Wordwise.normalize sql := by
  simp [normalize, ofStatement, refused]

/-- A normal form that stands for tokens is its own normal form. -/
theorem normalize_normalize_of_tokenize (read : tokenize sql = .ok ts) :
    normalize (normalize sql) = normalize sql := by
  rw [normalize_of_tokenize read,
    normalize_of_tokenize (tokenize_ofTokens (legible_of_tokenize read)),
    ofTokens_atStart_foldedTokens]

/-! ### Tidy texts with tokens -/

/-- The part of a tidy text from some place on. -/
structure TidyRest (u : Text) : Prop where
  noLineComment : NoLineComment u
  noBlockComment : NoBlockComment u
  singleSpaced : SingleSpaced u
  last_not_blank : ∀ c ∈ u.getLast?, ¬ Text.isBlank c

theorem TidyRest.of_suffix {v : Text} (tidy : TidyRest u) (part : v <:+ u) : TidyRest v := by
  refine ⟨tidy.noLineComment.of_isInfix part.isInfix, tidy.noBlockComment.of_isInfix part.isInfix,
    tidy.singleSpaced.of_suffix part, fun c mem => tidy.last_not_blank c ?_⟩
  obtain ⟨before, rfl⟩ := part
  exact List.mem_getLast?_append_of_mem_getLast? mem

/-- The gaps of a tidy text are single spaces with something after them. -/
theorem TidyRest.of_gap {c : Char} {cs gap rest : Text} (tidy : TidyRest (c :: cs))
    (read : Lexeme.read c cs = .gap gap rest) :
    ¬ (!Text.isBlank c) ∧ c = ' ' ∧ rest = cs ∧ cs.head?.any (fun d => !Text.isBlank d) := by
  unfold Lexeme.read at read
  split at read
  next isGap =>
    obtain ⟨-, rfl⟩ := Lexeme.gap.inj read
    have blank := Lexer.isBlank_of_isGapChar isGap
    obtain ⟨rfl, alone⟩ := tidy.singleSpaced.1 blank
    refine ⟨by simp [blank], rfl, rfl, ?_⟩
    cases cs with
    | nil => exact absurd blank (tidy.last_not_blank ' ' rfl)
    | cons d ds => simpa using alone
  split at read
  next line =>
    simp only [Bool.and_eq_true, decide_eq_true_eq, beq_iff_eq] at line
    obtain ⟨rfl, head⟩ := line
    obtain ⟨after, rfl⟩ := List.head?_eq_some_iff.mp head
    exact absurd ⟨[], after, rfl⟩ tidy.noLineComment
  split at read
  next block =>
    simp only [Bool.and_eq_true, decide_eq_true_eq, beq_iff_eq] at block
    obtain ⟨rfl, head⟩ := block
    obtain ⟨after, rfl⟩ := List.head?_eq_some_iff.mp head
    unfold Lexeme.blockComment at read
    split at read
    next body rest' closes =>
      have whole := Text.eq_append_of_cut? closes
      rw [List.tail_cons] at whole
      exact absurd (by simp [whole]) (tidy.noBlockComment [] body rest')
    next => cases read
  unfold Lexeme.quoted Lexeme.plain Lexeme.taken at read
  repeat' split at read
  all_goals cases read

/-- The text of the tokens of a tidy text is that text. -/
theorem trail_of_scan (read : Lexer.scan b u = .ok ts) (tidy : TidyRest u)
    (after : b → u.head?.any (fun c => !Text.isBlank c)) :
    trail ts = if b then ' ' :: u else u := by
  fun_induction Lexer.scan b u generalizing ts with
  | case1 spaced =>
      obtain rfl := Except.ok.inj read
      have first : spaced = false := by simpa using after
      simp [first]
  | case2 spaced c cs gap rest found ih =>
      obtain ⟨blank, rfl, rfl, next⟩ := tidy.of_gap found
      have first : spaced = false := by
        rw [← Bool.not_eq_true]
        exact fun goesOn => blank (after goesOn)
      rw [ih read (tidy.of_suffix (List.suffix_cons ' ' _)) fun _ => next, first]
      rfl
  | case3 spaced c cs kind text rest found ih =>
      obtain ⟨us, next, rfl⟩ := exists_of_map_eq_ok read
      obtain ⟨whole, -⟩ := Lexeme.read_parts (by rw [found]; rfl)
      have tail := ih next (tidy.of_suffix ⟨text, whole.symm⟩) fun h => by cases h
      rw [trail_cons, tail, whole, spacedText]
      cases spaced <;> rfl
  | case4 spaced c cs what found => cases read

/-- A tidy text is rendered from its tokens, and no semicolon stands at the end. -/
theorem render_of_tidy (tidy : Tidy u) (read : tokenize u = .ok ts) :
    render ts = u ∧ dropTerminators ts = ts := by
  have rest : TidyRest u :=
    ⟨tidy.noLineComment, tidy.noBlockComment, tidy.singleSpaced, tidy.last_not_blank⟩
  have whole : trail ts = u := trail_of_scan (scan_of_tokenize read) rest fun h => by cases h
  constructor
  · cases ts with
    | nil => exact whole
    | cons t ts =>
        cases spaced : t.spaced with
        | false => rwa [trail_cons, spacedText, if_neg (by simp [spaced])] at whole
        | true =>
            rw [trail_cons, spacedText, if_pos spaced] at whole
            exact absurd rfl (tidy.head_not_blank ' ' (by simp [← whole]))
  · rw [dropTerminators_eq, List.rdropWhile_eq_self_iff]
    intro nonempty last
    simp only [isTerminator, Bool.and_eq_true, beq_iff_eq] at last
    have ends : ∃ before, u = before ++ [';'] := by
      rw [← whole, ← List.dropLast_append_getLast nonempty, trail_append, trail_cons, spacedText,
        last.2]
      split
      · exact ⟨trail ts.dropLast ++ [' '], by simp⟩
      · exact ⟨trail ts.dropLast, by simp⟩
    obtain ⟨before, rfl⟩ := ends
    exact tidy.last_not_semicolon ';' (by simp) rfl

/-- A tidy text with tokens is its own normal form if the keywords among them are
in capitals. -/
theorem normalize_of_tidy (tidy : Tidy u) (read : tokenize u = .ok ts) :
    normalize u = u ↔ ∀ t ∈ ts, t.foldedText = t.text := by
  obtain ⟨whole, kept⟩ := render_of_tidy tidy read
  have legible := legible_of_tokenize read
  rw [normalize_of_tokenize read, ofTokens_eq_render, foldedTokens, kept]
  constructor
  · intro same t mem
    rw [← whole] at same
    have tokens := atStart_eq_of_render_eq legible.map_folded legible same
    have texts := (atStart_eq_iff.mp tokens).2
    obtain ⟨i, bound, rfl⟩ := List.mem_iff_getElem.mp mem
    have here := (texts i (by simpa using bound) bound).2.1
    simpa using here
  · intro capitals
    have same : ts.map folded = ts := by
      refine (List.map_congr_left fun t mem => ?_).trans (List.map_id ts)
      exact eq_of_parts rfl (capitals t mem) rfl
    rw [same, whole]

/-- A second normalization changes nothing if and only if the statement has
tokens, or its normal form has none, or the keywords among the tokens of its
normal form are in capitals. -/
theorem normalize_normalize_eq_iff (sql : Text) :
    normalize (normalize sql) = normalize sql ↔
      (∃ ts, tokenize sql = .ok ts) ∨
        ∀ ts, tokenize (Wordwise.normalize sql) = .ok ts → ∀ t ∈ ts, t.foldedText = t.text := by
  cases first : tokenize sql with
  | ok ts => simp [normalize_normalize_of_tokenize first]
  | error e =>
      rw [normalize_of_error first]
      have tidy := tidy_normalize sql
      cases second : tokenize (Wordwise.normalize sql) with
      | ok ts => simp [normalize_of_tidy tidy second]
      | error e => simp [normalize_of_error second, Wordwise.normalize_normalize]

/-- A word that ends a number is a keyword to the second reading only. -/
theorem normalize_normalize_ne :
    normalize (normalize "1select ' /* ' */ '".toList) ≠
      normalize "1select ' /* ' */ '".toList := by
  decide +kernel

end SqlGrader.NormalForm
