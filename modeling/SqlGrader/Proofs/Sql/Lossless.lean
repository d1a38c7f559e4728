import SqlGrader.Proofs.Sql.ByteLexer
import SqlGrader.Proofs.Sql.Rendering
/-!
# Nothing of a statement is lost

The tokens of a statement and the gaps between them, one after the other, are the statement. Gaps
are white space and comments, and a token is spaced if there is one before it. A statement that is
refused leaves a quote or a comment open: it begins at the offset that is told, nothing after it
closes it, and what stands before it has tokens.
-/

namespace SqlGrader.Lexer

/-! ### Gaps -/

/-- The parts of a gap that end before whatever comes next. -/
inductive GapPart : Text → Prop
  | blank {c : Char} (isBlank : isGapChar c) : GapPart [c]
  | line {line : Text} (single : '\n' ∉ line) : GapPart ('-' :: '-' :: (line ++ ['\n']))
  | block {body : Text} (closes : ¬ ['*', '/'] <:+: body) :
      GapPart ('/' :: '*' :: (body ++ ['*', '/']))

/-- White space, line comments and closed block comments, one after the other. -/
inductive Gap : Text → Prop
  | nil : Gap []
  | append {gap part : Text} (before : Gap gap) (last : GapPart part) : Gap (gap ++ part)

/-- The gap at the end of a statement. A line comment may end with the statement. -/
inductive LastGap : Text → Prop
  | closed {gap : Text} (closed : Gap gap) : LastGap gap
  | line {gap line : Text} (before : Gap gap) (single : '\n' ∉ line) :
      LastGap (gap ++ '-' :: '-' :: line)

/-- Whether a text is the texts of the tokens with gaps before, between and after them. The gaps go
as far as they can, and only quoted tokens hold white space. -/
inductive Tiles : Text → List Token → Prop
  | ended {gap : Text} (last : LastGap gap) : Tiles gap []
  | token {gap rest : Text} {t : Token} {ts : List Token} (before : Gap gap)
      (nonempty : t.text ≠ []) (spaced : t.spaced ↔ gap ≠ [])
      (maximal : ∀ part, GapPart part → ¬ part <+: t.text ++ rest)
      (solid : t.kind = .stringLiteral ∨ t.kind = .quotedName ∨ ∀ c ∈ t.text, ¬ isGapChar c)
      (after : Tiles rest ts) : Tiles (gap ++ (t.text ++ rest)) (t :: ts)

/-! ### What is left open -/

/-- What stands between quotes: the quotes in it are doubled. -/
inductive Contents (q : Char) : Text → Prop
  | nil : Contents q []
  | char {c : Char} {t : Text} (other : c ≠ q) (rest : Contents q t) : Contents q (c :: t)
  | doubled {t : Text} (rest : Contents q t) : Contents q (q :: q :: t)

/-- Whether a quote that is open at the start of a text is closed in it: by one that is not
doubled. -/
def ClosesQuote (q : Char) (t : Text) : Prop :=
  ∃ body rest, t = body ++ q :: rest ∧ Contents q body ∧ rest.head? ≠ some q

/-- How a construct begins. -/
def opening : Delimited → Text
  | .string => ['\'']
  | .quotedName => ['"']
  | .comment => ['/', '*']

/-- Whether a construct that is open at the start of a text is closed in it. -/
def IsClosedIn : Delimited → Text → Prop
  | .string, t => ClosesQuote '\'' t
  | .quotedName, t => ClosesQuote '"' t
  | .comment, t => ['*', '/'] <:+: t

/-- Whether the construct begins at the offset and nothing after it closes it, while the text before
it has tokens. -/
def LeavesOpen (sql : Text) (e : LexError) : Prop :=
  ∃ before rest, sql = before ++ (opening e.what ++ rest) ∧ e.offset = before.utf8Length ∧
    ¬ IsClosedIn e.what rest ∧ ∃ ts, tokenize before = .ok ts

variable {c q : Char} {cs gap rest text t : Text} {kind : TokenKind} {what : Delimited}

/-! ### What is read -/

/-- The forms of what stands at the start of a text. -/
inductive Form : Char → Text → Lexeme → Prop
  | blank {c : Char} {cs : Text} (isBlank : isGapChar c) : Form c cs (.gap [c] cs)
  | line {cs : Text} : Form '-' ('-' :: cs) (Lexeme.lineComment cs)
  | block {cs : Text} : Form '/' ('*' :: cs) (Lexeme.blockComment cs)
  | string {cs : Text} : Form '\'' cs (Lexeme.quoted .stringLiteral .string '\'' cs)
  | name {cs : Text} : Form '"' cs (Lexeme.quoted .quotedName .quotedName '"' cs)
  | token {c : Char} {cs : Text} (kind : TokenKind) (text rest : Text) :
      Form c cs (.token kind text rest)

theorem read_form (c : Char) (cs : Text) : Form c cs (Lexeme.read c cs) := by
  unfold Lexeme.read
  split
  next isBlank => exact .blank isBlank
  split
  next opens =>
    obtain ⟨rfl, ds, rfl⟩ := ByteLexer.exists_of_pair opens
    exact .line
  split
  next opens =>
    obtain ⟨rfl, ds, rfl⟩ := ByteLexer.exists_of_pair opens
    exact .block
  split
  next single => exact single ▸ .string
  split
  next double => exact double ▸ .name
  iterate 3
    split
    · exact .token ..
  obtain ⟨kind, text, rest, token⟩ := ByteLexer.plain_isToken c cs
  exact token ▸ .token kind text rest

/-! ### Gaps are read -/

theorem GapPart.ne_nil (part : GapPart text) : text ≠ [] := by
  cases part <;> simp

/-- A line comment goes to the end of its line, or of the text. -/
theorem lineComment_cases (reads : Lexeme.lineComment cs = .gap text rest) :
    GapPart text ∨ rest = [] ∧ ∃ line, text = '-' :: '-' :: line ∧ '\n' ∉ line := by
  unfold Lexeme.lineComment at reads
  split at reads
  next line after found =>
    obtain ⟨rfl, rfl⟩ := Lexeme.gap.inj reads
    exact .inl (.line (Text.notMem_of_cutAt? found))
  next missing =>
    obtain ⟨rfl, rfl⟩ := Lexeme.gap.inj reads
    exact .inr ⟨rfl, cs, rfl, Text.notMem_of_cutAt?_eq_none missing⟩

theorem blockComment_gap (reads : Lexeme.blockComment cs = .gap text rest) : GapPart text := by
  unfold Lexeme.blockComment at reads
  split at reads
  next body after found =>
    obtain ⟨rfl, rfl⟩ := Lexeme.gap.inj reads
    exact .block (Text.not_infix_of_cut? (by simp) found)
  next => cases reads

theorem quoted_not_gap {given : TokenKind} :
    Lexeme.quoted given what q cs ≠ .gap text rest := by
  unfold Lexeme.quoted
  split <;> simp

/-- What is read as a gap is part of one, or a line comment at the end of the text. -/
theorem read_gap (reads : Lexeme.read c cs = .gap text rest) :
    GapPart text ∨ rest = [] ∧ ∃ line, text = '-' :: '-' :: line ∧ '\n' ∉ line := by
  have form := read_form c cs
  generalize Lexeme.read c cs = lexeme at form reads
  cases form with
  | blank isBlank =>
      obtain ⟨rfl, rfl⟩ := Lexeme.gap.inj reads
      exact .inl (.blank isBlank)
  | line => exact lineComment_cases reads
  | block => exact .inl (blockComment_gap reads)
  | string | name => exact absurd reads quoted_not_gap
  | token => cases reads

/-- Part of a gap is read whatever comes next. -/
theorem GapPart.read {tail : Text} (part : GapPart (c :: tail)) (r : Text) :
    Lexeme.read c (tail ++ r) = .gap (c :: tail) r := by
  cases part with
  | blank isBlank => exact if_pos isBlank
  | @line line single =>
      have ends := Text.cutAt?_append_cons single r
      have opens : Lexeme.read '-' ('-' :: (line ++ '\n' :: r)) =
          Lexeme.lineComment (line ++ '\n' :: r) := rfl
      rw [List.cons_append, List.append_assoc, List.singleton_append, opens, Lexeme.lineComment,
        ends]
      rfl
  | @block body closes =>
      have ends := Text.cut?_append_of_free (by decide) closes r
      have opens : Lexeme.read '/' ('*' :: (body ++ (['*', '/'] ++ r))) =
          Lexeme.blockComment (body ++ (['*', '/'] ++ r)) := rfl
      rw [List.cons_append, List.append_assoc, opens, Lexeme.blockComment, ends]
      rfl

/-! ### Tokens are read -/

/-- Where a token is read no part of a gap begins. -/
theorem not_prefix_of_token {part : Text} (reads : Lexeme.read c cs = .token kind text rest)
    (isPart : GapPart part) : ¬ part <+: c :: cs := by
  rintro ⟨more, whole⟩
  obtain ⟨d, tail, rfl⟩ := List.exists_cons_of_ne_nil isPart.ne_nil
  obtain ⟨rfl, rfl⟩ := List.cons.inj whole
  cases reads.symm.trans (isPart.read more)

theorem not_isGapChar_of_class {p : Char → Bool}
    (free : [' ', '\t', '\n', '\x0c', '\r'].all fun d => !p d) (holds : p c) : ¬ isGapChar c := by
  intro gap
  simp only [isGapChar, Bool.or_eq_true, beq_iff_eq] at gap
  have mem : c ∈ [' ', '\t', '\n', '\x0c', '\r'] := by simpa [or_assoc] using gap
  simpa [holds] using List.all_eq_true.1 free c mem

/-- A token without quotes holds no white space. -/
theorem solid_of_read (reads : Lexeme.read c cs = .token kind text rest) :
    kind = .stringLiteral ∨ kind = .quotedName ∨ ∀ d ∈ text, ¬ isGapChar d := by
  have first : ¬ isGapChar c := by
    intro gap
    exact not_prefix_of_token reads (.blank gap) (List.prefix_append [c] cs)
  rcases Lexeme.read_cases reads with ⟨quote, -⟩ | ⟨-, rfl, -⟩ | ⟨-, unmarked⟩
  · exact quote.elim (fun single => .inl single.1) fun double => .inr (.inl double.1)
  · exact .inr (.inr (by simpa using first))
  · refine .inr (.inr ?_)
    obtain ⟨tail, rfl, rfl, number | word | symbol⟩ := Lexeme.plain_cases unmarked
    · obtain ⟨-, -, -, length⟩ := number
      have chars : ∀ d ∈ c :: tail, isNumberChar d := isNumberChar_of_numberLength length (.inl rfl)
      exact fun d mem => not_isGapChar_of_class (by decide) (chars d mem)
    · obtain ⟨-, -, parts, -⟩ := word
      have later : ∀ d ∈ tail, ¬ isGapChar d :=
        fun d mem => not_isGapChar_of_class (by decide) (parts d mem)
      exact List.forall_mem_cons.2 ⟨first, later⟩
    · obtain ⟨-, -, -, length⟩ := symbol
      have length' : symbolLength (c :: tail ++ rest) = (c :: tail).length := length
      rcases symbol_cases length' with ⟨op, known, same⟩ | single
      · have free : operators.all fun op => op.toList.all fun d => !isGapChar d := by decide
        rw [← same]
        simpa using List.all_eq_true.1 (List.all_eq_true.1 free op known)
      · obtain rfl : tail = [] := by simpa using single
        simpa using first

/-! ### All of a statement -/

/-- The text of a statement that has tokens is tiled by them. The induction is on the steps of
the scan, and `gap` is the gap before the next one. -/
theorem tiles_of_scan {spaced : Bool} {ts : List Token} (before : Gap gap)
    (isSpaced : spaced ↔ gap ≠ []) (read : scan spaced t = .ok ts) : Tiles (gap ++ t) ts := by
  fun_induction scan spaced t generalizing gap ts with
  | case1 spaced =>
      obtain rfl := Except.ok.inj read
      rw [List.append_nil]
      exact .ended (.closed before)
  | case2 spaced c cs text rest found ih =>
      have whole : c :: cs = text ++ rest := (Lexeme.read_parts (by rw [found]; rfl)).1
      rw [whole]
      rcases read_gap found with part | ⟨rfl, line, rfl, single⟩
      · rw [← List.append_assoc]
        exact ih (.append before part) (by simp [part.ne_nil]) read
      · rw [scan] at read
        obtain rfl := Except.ok.inj read
        rw [List.append_nil]
        exact .ended (.line before single)
  | case3 spaced c cs kind text rest found ih =>
      obtain ⟨whole, nonempty⟩ := Lexeme.read_parts (by rw [found]; rfl)
      obtain ⟨us, next, rfl⟩ := Token.exists_of_map_eq_ok read
      have after : Tiles ([] ++ rest) us := ih .nil (by simp) next
      rw [whole]
      refine Tiles.token (t := ⟨kind, text, spaced⟩) before nonempty isSpaced ?_
        (solid_of_read found) after
      rw [← whole]
      exact fun part isPart => not_prefix_of_token found isPart
  | case4 spaced c cs what found => cases read

/-! ### What is left open is told -/

/-- Contents and a single quote after them are where a quote closes. -/
theorem closeQuote?_contents {body : Text} (contents : Contents q body)
    (single : rest.head? ≠ some q) :
    closeQuote? q (body ++ q :: rest) = some (body ++ [q], rest) := by
  induction contents with
  | nil => exact closeQuote?_self single
  | char other _ ih =>
      rw [List.cons_append, closeQuote?_ne other, ih]
      rfl
  | doubled _ ih => simp [closeQuote?, ih]

theorem not_closesQuote (missing : closeQuote? q t = none) : ¬ ClosesQuote q t := by
  rintro ⟨body, rest, rfl, contents, single⟩
  rw [closeQuote?_contents contents single] at missing
  cases missing

theorem quoted_unclosed {given : TokenKind} {what' : Delimited}
    (reads : Lexeme.quoted given what q cs = .unclosed what') :
    what' = what ∧ ¬ ClosesQuote q cs := by
  unfold Lexeme.quoted at reads
  split at reads
  next => cases reads
  next missing => exact ⟨(Lexeme.unclosed.inj reads).symm, not_closesQuote missing⟩

theorem lineComment_closed : Lexeme.lineComment cs ≠ .unclosed what := by
  unfold Lexeme.lineComment
  split <;> simp

theorem blockComment_unclosed (reads : Lexeme.blockComment cs = .unclosed what) :
    what = .comment ∧ ¬ ['*', '/'] <:+: cs := by
  unfold Lexeme.blockComment at reads
  split at reads
  next => cases reads
  next missing =>
    exact ⟨(Lexeme.unclosed.inj reads).symm, fun closes => Text.cut?_ne_none closes missing⟩

/-- What is left open begins here and is not closed after. -/
theorem read_unclosed (reads : Lexeme.read c cs = .unclosed what) :
    ∃ rest, c :: cs = opening what ++ rest ∧ ¬ IsClosedIn what rest := by
  have form := read_form c cs
  generalize Lexeme.read c cs = lexeme at form reads
  cases form with
  | blank => cases reads
  | line => exact absurd reads lineComment_closed
  | block =>
      obtain ⟨rfl, missing⟩ := blockComment_unclosed reads
      exact ⟨_, rfl, missing⟩
  | string | name =>
      obtain ⟨rfl, missing⟩ := quoted_unclosed reads
      exact ⟨_, rfl, missing⟩
  | token => cases reads

theorem scan_of_gap (reads : Lexeme.read c cs = .gap text rest) (spaced : Bool) :
    scan spaced (c :: cs) = scan true rest := by
  rw [scan]
  split
  next found =>
    obtain ⟨-, rfl⟩ := Lexeme.gap.inj (found.symm.trans reads)
    rfl
  next found => cases found.symm.trans reads
  next found => cases found.symm.trans reads

/-- What stands before something that is left open has tokens. The induction is on the steps of the
scan: each is the same where the text ends before what is left open. -/
theorem scan_before {spaced : Bool} {left : Text} (refused : scan spaced t = .error (what, left)) :
    (∃ c cs, left = c :: cs ∧ Lexeme.read c cs = .unclosed what) ∧
      ∃ before ts, t = before ++ left ∧ scan spaced before = .ok ts := by
  fun_induction scan spaced t with
  | case1 => cases refused
  | case2 spaced c cs text rest found ih =>
      obtain ⟨⟨d, ds, rfl, opens⟩, before, ts, rfl, read⟩ := ih refused
      obtain ⟨whole, nonempty⟩ := Lexeme.read_parts (by rw [found]; rfl)
      -- A line comment at the end of the text leaves nothing to refuse.
      have part := (read_gap found).resolve_right (by simp)
      obtain ⟨e, tail, rfl⟩ := List.exists_cons_of_ne_nil nonempty
      obtain ⟨rfl, rfl⟩ := List.cons.inj whole
      refine ⟨⟨d, ds, rfl, opens⟩, c :: (tail ++ before), ts, by simp, ?_⟩
      rw [scan_of_gap (part.read before), read]
  | case3 spaced c cs kind text rest found ih =>
      cases next : scan false rest with
      | ok us =>
          rw [next] at refused
          cases refused
      | error e =>
          rw [next] at refused
          obtain rfl := Except.error.inj refused
          obtain ⟨opens, before, ts, rfl, read⟩ := ih next
          obtain ⟨whole, nonempty⟩ := Lexeme.read_parts (by rw [found]; rfl)
          obtain ⟨e, tail, rfl⟩ := List.exists_cons_of_ne_nil nonempty
          obtain ⟨rfl, rfl⟩ := List.cons.inj whole
          have reads : Token.ReadsBefore ⟨kind, c :: tail, spaced⟩ before :=
            ⟨c, tail, rfl, Lexeme.read_echo found (.of_isPrefix before left)⟩
          refine ⟨opens, c :: (tail ++ before), ⟨kind, c :: tail, spaced⟩ :: ts, by simp, ?_⟩
          have step := reads.scan spaced
          rw [read] at step
          exact step
  | case4 spaced c cs what' found =>
      obtain ⟨rfl, rfl⟩ := Prod.mk.inj (Except.error.inj refused)
      exact ⟨⟨c, cs, rfl, found⟩, [], [], rfl, by rw [scan]⟩

theorem leavesOpen_of_scan {sql left : Text} (refused : scan false sql = .error (what, left)) :
    LeavesOpen sql ⟨what, sql.utf8Length - left.utf8Length⟩ := by
  obtain ⟨⟨c, cs, rfl, opens⟩, before, ts, rfl, read⟩ := scan_before refused
  obtain ⟨rest, starts, unclosed⟩ := read_unclosed opens
  refine ⟨before, rest, by rw [starts], ?_, unclosed, ts, Token.tokenize_of_scan read⟩
  rw [Text.utf8Length_append, Nat.add_sub_cancel]

end SqlGrader.Lexer

namespace SqlGrader

open Lexer

/-- Of any text the tokens with the gaps between them are the whole text, or it is told where
something is left open. The same comes of reading by byte offset, which never cuts inside of a
character. -/
theorem tokenize_lossless (sql : Text) :
    ByteLexer.tokenize sql = (tokenize sql).mapError .unclosed ∧
      match tokenize sql with
      | .ok ts => Tiles sql ts
      | .error e => LeavesOpen sql e := by
  refine ⟨ByteLexer.tokenize_eq sql, ?_⟩
  rw [tokenize]
  cases read : scan false sql with
  | ok ts => exact tiles_of_scan .nil (by simp) read
  | error e => exact leavesOpen_of_scan read

end SqlGrader
