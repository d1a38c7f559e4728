import SqlGrader.Proofs.Sql.Lossless
import SqlGrader.Proofs.Sql.Pieces
import SqlGrader.Proofs.Sql.Twin
import SqlGrader.Sql.Item
import Mathlib.Data.List.Infix
/-!
# What stands outside of quotes

A text can be looked at one character at a time, with nothing in mind but the quote that is open. A
doubled quote closes one and opens the next. Where the text holds no comment, quotes open and close
where the lexer has quoted tokens, and outside of them stand the texts of all other tokens with the
white space between them. Such a text is read as white space and tokens, one after the other:
`readsTo_of_scan`.
-/

namespace SqlGrader.Lexer

/-- The quote that is open behind a character. -/
def quoteAfter (quote : Option Char) (c : Char) : Option Char :=
  match quote with
  | some q => if c = q then none else some q
  | none => if c = '\'' || c = '"' then some c else none

/-- The quote that is open behind a text. -/
def quoteBehind (quote : Option Char) (t : Text) : Option Char := t.foldl quoteAfter quote

/-- The characters outside of quotes, the quotes left out. `quote` is open before the text. -/
def outside : (quote : Option Char) → Text → Text
  | _, [] => []
  | quote, c :: cs =>
    let next := quoteAfter quote c
    if quote.isNone && next.isNone then c :: outside next cs else outside next cs

/-- Whether a text starts with the mark of a comment. -/
def startsComment (t : Text) : Bool := ['-', '-'].isPrefixOf t || ['/', '*'].isPrefixOf t

/-- Whether a comment starts outside of quotes. -/
def holdsComment : (quote : Option Char) → Text → Bool
  | _, [] => false
  | quote, c :: cs =>
    quote.isNone && startsComment (c :: cs) || holdsComment (quoteAfter quote c) cs

/-- Whether no front of the text closes more parentheses outside of quotes than are open by then.
`depth` of them are open before the text. -/
def StaysOpen (depth : Nat) (t : Text) : Prop :=
  ∀ front ∈ t.inits, (outside none front).count ')' ≤ depth + (outside none front).count '('

instance (depth : Nat) (t : Text) : Decidable (StaysOpen depth t) :=
  inferInstanceAs (Decidable (∀ front ∈ t.inits, _))

/-- How a text without comments is read: as white space and tokens, which hold white space inside
of quotes only. The mark says whether white space stands before the text. -/
inductive ReadsTo : (spaced : Bool) → Text → List Token → Prop
  | nil (spaced : Bool) : ReadsTo spaced [] []
  | gap {spaced : Bool} {c : Char} {rest : Text} {ts : List Token} (blank : isGapChar c)
      (later : ReadsTo true rest ts) : ReadsTo spaced (c :: rest) ts
  | token {t : Token} {rest : Text} {ts : List Token} (reads : t.ReadsBefore rest)
      (plain : t.Plain) (later : ReadsTo false rest ts) :
      ReadsTo t.spaced (t.text ++ rest) (t :: ts)

variable {c q : Char} {quote : Option Char} {x y cs rest text t : Text} {spaced : Bool}
  {depth : Nat} {ts : List Token}

theorem outside_append (quote : Option Char) (x y : Text) :
    outside quote (x ++ y) = outside quote x ++ outside (quoteBehind quote x) y := by
  induction x generalizing quote with
  | nil => rfl
  | cons c x ih =>
      simp only [List.cons_append, outside, ih]
      split <;> rfl

theorem outside_subset (quote : Option Char) (t : Text) : outside quote t ⊆ t := by
  induction t generalizing quote with
  | nil => exact List.Subset.refl _
  | cons c t ih =>
      rw [outside]
      split
      · exact List.cons_subset_cons c (ih _)
      · exact List.subset_cons_of_subset c (ih _)

theorem holdsComment_of_append (free : holdsComment quote (x ++ y) = false) :
    holdsComment (quoteBehind quote x) y = false := by
  induction x generalizing quote with
  | nil => exact free
  | cons c x ih =>
      rw [List.cons_append, holdsComment, Bool.or_eq_false_iff] at free
      exact ih free.2

/-- Where the quotes of a front are closed the parentheses of both parts count together. -/
theorem StaysOpen.append (stays : StaysOpen depth (x ++ y)) (closed : quoteBehind none x = none)
    {front : Text} (isFront : front ∈ y.inits) :
    (outside none x).count ')' + (outside none front).count ')' ≤
      depth + ((outside none x).count '(' + (outside none front).count '(') := by
  rw [List.mem_inits] at isFront
  have whole := stays (x ++ front)
    ((List.mem_inits _ _).mpr ((List.prefix_append_right_inj x).mpr isFront))
  rwa [outside_append, closed, List.count_append, List.count_append] at whole

/-- Behind such a text as many parentheses are open as it has left open. -/
theorem StaysOpen.later {depth' : Nat} (stays : StaysOpen depth (x ++ y))
    (closed : quoteBehind none x = none)
    (balance : depth' + (outside none x).count ')' = depth + (outside none x).count '(') :
    StaysOpen depth' y := by
  intro front isFront
  have within := stays.append closed isFront
  omega

/-! ### Tokens by their characters -/

/-- What closes a quote leaves none open, and all of it stands inside of the quote. -/
theorem quoted_of_closeQuote? {body : Text} (isQuote : q = '\'' ∨ q = '"')
    (closes : closeQuote? q t = some (body, rest)) :
    quoteBehind (some q) body = none ∧ outside (some q) body = [] := by
  have opens : quoteAfter none q = some q := by
    rcases isQuote with rfl | rfl <;> rfl
  have ends : quoteAfter (some q) q = none := if_pos rfl
  fun_induction closeQuote? q t generalizing body with
  | case1 => cases closes
  | case2 | case5 =>
      obtain ⟨rfl, rfl⟩ := Prod.mk.inj (Option.some.inj closes)
      simp [quoteBehind, outside, ends]
  | case3 => cases closes
  | case4 cs ih =>
      obtain ⟨⟨inner, rest'⟩, found, same⟩ := Option.map_eq_some_iff.mp closes
      obtain ⟨rfl, rfl⟩ := Prod.mk.inj same
      simpa [quoteBehind, outside, ends, opens] using ih found
  | case6 c d cs other ih =>
      obtain ⟨⟨inner, rest'⟩, found, same⟩ := Option.map_eq_some_iff.mp closes
      obtain ⟨rfl, rfl⟩ := Prod.mk.inj same
      have stays : quoteAfter (some q) c = some q := if_neg other
      simpa [quoteBehind, outside, stays] using ih found

/-- Characters that are no quotes stand outside of quotes. -/
theorem outside_of_free (free : ∀ d ∈ t, d ≠ '\'' ∧ d ≠ '"') :
    quoteBehind none t = none ∧ outside none t = t := by
  induction t with
  | nil => exact ⟨rfl, rfl⟩
  | cons c t ih =>
      rw [List.forall_mem_cons] at free
      have stays : quoteAfter none c = none := if_neg (by simp [free.1])
      simpa [quoteBehind, outside, stays] using ih free.2

/-- What a token is to a reader of characters. -/
inductive Role (t : Token) : Prop
  /-- A quoted token closes the quote that it opens. -/
  | quoted (kind : t.kind = .stringLiteral ∨ t.kind = .quotedName)
      (closed : quoteBehind none t.text = none) (inside : outside none t.text = [])
  | opening (kind : t.kind = .openParen) (text : t.text = ['('])
  | closing (kind : t.kind = .closeParen) (text : t.text = [')'])
  | comma (kind : t.kind = .comma) (text : t.text = [','])
  /-- All other tokens hold no quote, no parenthesis and no comma. -/
  | plain (kind : t.kind = .number ∨ t.kind = .word ∨ t.kind = .symbol)
      (free : ∀ d ∈ t.text, d ∉ ['\'', '"', '(', ')', ','])

theorem role_of_reads {t : Token} (reads : t.ReadsBefore rest) : Role t := by
  obtain ⟨c, tail, same, here⟩ := reads
  rcases Lexeme.read_cases here with ⟨quote, body, whole, closes⟩ | ⟨mark, whole, -⟩ |
    ⟨noMark, unmarked⟩
  · have isQuote : c = '\'' ∨ c = '"' := quote.imp And.right And.right
    have opens : quoteAfter none c = some c := by
      rcases isQuote with rfl | rfl <;> rfl
    obtain ⟨closed, inside⟩ := quoted_of_closeQuote? isQuote closes
    refine .quoted (quote.imp And.left And.left) ?_ ?_
    · rw [whole, quoteBehind, List.foldl_cons, opens]
      exact closed
    · simpa [whole, outside, opens] using inside
  · rcases mark with ⟨kind, rfl⟩ | ⟨kind, rfl⟩ | ⟨kind, rfl⟩
    · exact .opening kind whole
    · exact .closing kind whole
    · exact .comma kind whole
  · refine .plain ?_ (Lexeme.free_of_plain noMark unmarked)
    obtain ⟨-, -, -, ⟨kind, -⟩ | ⟨kind, -⟩ | ⟨kind, -⟩⟩ := Lexeme.plain_cases unmarked
    · exact .inl kind
    · exact .inr (.inl kind)
    · exact .inr (.inr kind)

/-- A token closes the quotes that it opens. -/
theorem Role.closed {t : Token} (role : Role t) : quoteBehind none t.text = none := by
  cases role with
  | quoted _ closed => exact closed
  | opening _ text | closing _ text | comma _ text => rw [text]; rfl
  | plain _ free =>
      apply (outside_of_free _).1
      intro d mem
      have other := free d mem
      simp only [List.mem_cons, not_or] at other
      exact ⟨other.1, other.2.1⟩

/-- The text of a token that is not quoted stands outside of quotes. -/
theorem Role.outside {t : Token} (role : Role t) :
    (t.kind = .stringLiteral ∨ t.kind = .quotedName) ∨ outside none t.text = t.text := by
  cases role with
  | quoted kind => exact .inl kind
  | opening _ text | closing _ text | comma _ text => exact .inr (by rw [text]; rfl)
  | plain _ free =>
      refine .inr (outside_of_free ?_).2
      intro d mem
      have other := free d mem
      simp only [List.mem_cons, not_or] at other
      exact ⟨other.1, other.2.1⟩

/-! ### Texts without comments -/

theorem quoteAfter_blank (blank : isGapChar c) : quoteAfter none c = none := by
  simp only [isGapChar, Bool.or_eq_true, beq_iff_eq] at blank
  rcases blank with (((rfl | rfl) | rfl) | rfl) | rfl <;> rfl

theorem outside_blank (blank : isGapChar c) (t : Text) :
    outside none (c :: t) = c :: outside none t := by
  simp [outside, quoteAfter_blank blank]

/-- Where no comment starts a gap is a single character. -/
theorem blank_of_read (free : startsComment (c :: cs) = false)
    (reads : Lexeme.read c cs = .gap text rest) : isGapChar c ∧ text = [c] ∧ rest = cs := by
  have form := read_form c cs
  generalize Lexeme.read c cs = lexeme at form reads
  cases form with
  | blank isBlank =>
      obtain ⟨rfl, rfl⟩ := Lexeme.gap.inj reads
      exact ⟨isBlank, rfl, rfl⟩
  | line | block => simp [startsComment] at free
  | string | name => exact absurd reads quoted_not_gap
  | token => cases reads

/-- A text that can be read, that holds no comment, and outside of quotes no other white space than
the lexer passes over. The induction is on the steps of the scan. -/
theorem readsTo_of_scan (read : scan spaced t = .ok ts) (uncommented : holdsComment none t = false)
    (blanks : ∀ c ∈ outside none t, Text.isBlank c → isGapChar c) : ReadsTo spaced t ts := by
  fun_induction scan spaced t generalizing ts with
  | case1 spaced =>
      obtain rfl := Except.ok.inj read
      exact .nil spaced
  | case2 spaced c cs text rest found ih =>
      have free : startsComment (c :: cs) = false := by
        rw [holdsComment, Bool.or_eq_false_iff] at uncommented
        simpa using uncommented.1
      obtain ⟨blank, rfl, rfl⟩ := blank_of_read free found
      rw [outside_blank blank, List.forall_mem_cons] at blanks
      rw [holdsComment, Bool.or_eq_false_iff, quoteAfter_blank blank] at uncommented
      exact .gap blank (ih read uncommented.2 blanks.2)
  | case3 spaced c cs kind text rest found ih =>
      obtain ⟨us, next, rfl⟩ := Token.exists_of_map_eq_ok read
      obtain ⟨whole, -⟩ := Lexeme.read_parts (by rw [found]; rfl)
      have reads := Token.ReadsBefore.of_read found spaced
      have role := role_of_reads reads
      rw [whole, outside_append, role.closed, List.forall_mem_append] at blanks
      rw [whole] at uncommented ⊢
      have later := holdsComment_of_append uncommented
      rw [role.closed] at later
      have plain : Token.Plain ⟨kind, text, spaced⟩ := by
        rcases role.outside with quoted | out
        · exact .inl quoted
        · rcases solid_of_read found with quoted | quoted | solid
          · exact .inl (.inl quoted)
          · exact .inl (.inr quoted)
          · rw [out] at blanks
            exact .inr fun d mem blank => solid d mem (blanks.1 d mem blank)
      exact .token reads plain (ih next later blanks.2)
  | case4 spaced c cs what found => cases read

namespace ReadsTo

/-- The tokens of a reading are those that the lexer finds. -/
theorem scan (reading : ReadsTo spaced t ts) : Lexer.scan spaced t = .ok ts := by
  induction reading with
  | nil spaced => rw [Lexer.scan]
  | gap blank _ ih => rw [scan_of_gap (if_pos blank), ih]
  | token reads _ _ ih =>
      rw [reads.scan, ih]
      rfl

theorem eq_nil (reading : ReadsTo spaced [] ts) : ts = [] := by
  generalize empty : ([] : Text) = t at reading
  cases reading with
  | nil => rfl
  | gap => cases empty
  | token reads =>
      have none := (List.append_eq_nil_iff.mp empty.symm).1
      exact absurd none reads.text_ne_nil

/-! ### Trimmed texts -/

/-- White space before the first token only marks that token. -/
theorem trimStart (reading : ReadsTo spaced t ts) :
    ReadsTo false (Text.trimStart t) (Token.marked false ts) := by
  induction reading with
  | nil spaced => exact .nil false
  | @gap spaced c rest ts blank _ ih =>
      have dropped : Text.trimStart (c :: rest) = Text.trimStart rest :=
        List.dropWhile_cons_of_pos (isBlank_of_isGapChar blank)
      rw [dropped]
      exact ih
  | @token t rest ts reads plain later _ =>
      have kept : Text.trimStart (t.text ++ rest) = t.text ++ rest := by
        apply Text.trimStart_eq_self
        intro c first
        apply (reads.trimmed plain).head
        rwa [List.head?_append_of_ne_nil _ reads.text_ne_nil] at first
      rw [kept]
      exact .token (t := { t with spaced := false }) reads plain later

/-- White space at the end belongs to no token. -/
theorem dropLast (reading : ReadsTo spaced (t ++ [c]) ts) (blank : Text.isBlank c) :
    ReadsTo spaced t ts := by
  generalize whole : t ++ [c] = x at reading
  induction reading generalizing t with
  | nil => simp at whole
  | @gap spaced d rest ts gap later ih =>
      cases t with
      | nil =>
          obtain ⟨rfl, rfl⟩ := List.cons.inj whole
          rw [later.eq_nil]
          exact .nil spaced
      | cons e t =>
          obtain ⟨rfl, same⟩ := List.cons.inj whole
          exact .gap gap (ih same)
  | @token u rest ts reads plain later ih =>
      rcases List.eq_nil_or_concat rest with rfl | ⟨rest, d, rfl⟩
      · -- The last character of a token is no white space.
        rw [List.append_nil] at whole
        have last : u.text.getLast? = some c := by rw [← whole, List.getLast?_concat]
        exact absurd blank ((reads.trimmed plain).last c last)
      · rw [List.concat_eq_append, ← List.append_assoc] at whole
        obtain ⟨rfl, same⟩ := List.append_inj' whole rfl
        obtain rfl := List.singleton_inj.mp same
        rw [List.concat_eq_append] at reads ih
        exact .token (reads.echo (.of_isPrefix rest [c])) plain (ih rfl)

theorem trimEnd (reading : ReadsTo spaced t ts) : ReadsTo spaced (Text.trimEnd t) ts := by
  induction t using List.reverseRecOn with
  | nil => exact reading
  | append_singleton t c ih =>
      rw [Text.trimEnd, Text.dropEndWhile_eq]
      by_cases blank : Text.isBlank c
      · rw [List.rdropWhile_concat_pos _ _ _ blank]
        exact ih (reading.dropLast blank)
      · rwa [List.rdropWhile_concat_neg _ _ _ blank]

/-- A trimmed text has the same tokens. -/
theorem trim (reading : ReadsTo spaced t ts) :
    ReadsTo false (Text.trim t) (Token.marked false ts) :=
  reading.trimStart.trimEnd

/-- Nothing is left of a text without tokens. -/
theorem trim_eq_nil (reading : ReadsTo spaced t []) : Text.trim t = [] := by
  generalize none : ([] : List Token) = ts at reading
  have start : Text.trimStart t = [] := by
    induction reading with
    | nil => rfl
    | gap blank _ ih =>
        rw [Text.trimStart, List.dropWhile_cons_of_pos (isBlank_of_isGapChar blank)]
        exact ih none
    | token => cases none
  rw [Text.trim, start]
  rfl

end ReadsTo

end SqlGrader.Lexer
