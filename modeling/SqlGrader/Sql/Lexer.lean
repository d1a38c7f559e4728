import SqlGrader.Sql.Token
import SqlGrader.Text.Letter
/-!
# Reading tokens

`tokenize` reads a statement from left to right. What stands at a place is decided by its first
characters alone: a gap (white space or a comment), a token, or the start of a quote or comment that
is never closed, which refuses the whole text. Each step takes at least one character and the texts
of the steps, one after the other, are the statement: `Lexeme.read_parts`.

White space between tokens is ASCII white space. Other white space is a word character here, as is
every character outside ASCII that starts a token.
-/

namespace SqlGrader

/-- What a text can leave open at its end. -/
inductive Delimited
  | string
  | quotedName
  | comment
  deriving Repr, DecidableEq

/-- A quote or comment that is opened at a byte offset and never closed. -/
structure LexError where
  what : Delimited
  offset : Nat
  deriving Repr, DecidableEq

def Delimited.describe : Delimited → String
  | .string => "string literal"
  | .quotedName => "quoted identifier"
  | .comment => "block comment"

def LexError.message (e : LexError) : String :=
  s!"unterminated {e.what.describe} starting at byte {e.offset}"

namespace Lexer

/-- White space between tokens. -/
def isGapChar (c : Char) : Bool :=
  c == ' ' || c == '\t' || c == '\n' || c == '\x0c' || c == '\r'

/-- The characters that continue an unquoted word. -/
def isNamePart (c : Char) : Bool := Text.isAlphanumeric c || c == '_' || c == '$'

/-- The characters that start an unquoted word. -/
def isNameStart (c : Char) : Bool := c.isAlpha || c == '_' || 128 ≤ c.toNat

/-- Cuts just after the closing quote `q`. A doubled quote belongs to the contents. -/
def closeQuote? (q : Char) : Text → Option (Text × Text)
  | [] => none
  | [c] => if c = q then some ([c], []) else none
  | c :: d :: cs =>
    if c = q then
      if d = q then (closeQuote? q cs).map fun p => (c :: d :: p.1, p.2)
      else some ([c], d :: cs)
    else (closeQuote? q (d :: cs)).map fun p => (c :: p.1, p.2)

/-- The length of an exponent mark with its sign, where a digit follows. -/
def exponentMark? : Text → Option Nat
  | e :: s :: d :: _ =>
    if e != 'e' && e != 'E' then none
    else if (s == '+' || s == '-') && d.isDigit then some 2
    else if s.isDigit then some 1 else none
  | [e, s] => if (e == 'e' || e == 'E') && s.isDigit then some 1 else none
  | _ => none

/-- The number of characters of the longest number at the start of a text. A point may stand once
and not after an exponent; exponents may follow one another. `skip` characters are known to
belong. -/
def numberLength (pointSeen : Bool) (skip : Nat) : Text → Nat
  | [] => 0
  | c :: cs =>
    match skip with
    | n + 1 => numberLength pointSeen n cs + 1
    | 0 =>
      if c.isDigit then numberLength pointSeen 0 cs + 1
      else if c = '.' && !pointSeen then numberLength true 0 cs + 1
      else match exponentMark? (c :: cs) with
        | some n => numberLength true (n - 1) cs + 1
        | none => 0

/-- Operators of more than one character; of two that fit, the earlier one is meant. -/
def operators : List String := ["<>", "<=", ">=", "!=", "||", "::", "->>", "->"]

/-- The number of characters of the operator or punctuation mark at the start of a text. -/
def symbolLength (t : Text) : Nat :=
  match operators.find? fun op => op.toList.isPrefixOf t with
  | some op => op.length
  | none => 1

/-- Whether a number starts at `c`: with a digit, or with a point that a digit follows. -/
def startsNumber (c : Char) (cs : Text) : Bool :=
  c.isDigit || (c == '.' && (cs.head?.any Char.isDigit))

end Lexer

/-- What stands at the start of a text, and the rest after it. -/
inductive Lexeme
  | gap (text rest : Text)
  | token (kind : TokenKind) (text rest : Text)
  | unclosed (what : Delimited)
  deriving Repr, DecidableEq

namespace Lexeme

open Lexer

/-- A token of kind `kind` that ends with the closing quote `q`. -/
def quoted (kind : TokenKind) (what : Delimited) (q : Char) (cs : Text) : Lexeme :=
  match closeQuote? q cs with
  | some (body, rest) => .token kind (q :: body) rest
  | none => .unclosed what

/-- A token of the first `n + 1` characters. -/
def taken (kind : TokenKind) (n : Nat) (c : Char) (cs : Text) : Lexeme :=
  .token kind (c :: cs.take n) (cs.drop n)

/-- A token that starts with none of the characters that have a rule of their own. -/
def plain (c : Char) (cs : Text) : Lexeme :=
  if startsNumber c cs then taken .number (numberLength false 0 (c :: cs) - 1) c cs
  else if isNameStart c then .token .word (c :: cs.takeWhile isNamePart) (cs.dropWhile isNamePart)
  else taken .symbol (symbolLength (c :: cs) - 1) c cs

/-- A comment to the end of the line, the line end included. -/
def lineComment (cs : Text) : Lexeme :=
  match Text.cutAt? '\n' cs with
  | some (line, rest) => .gap ('-' :: '-' :: line ++ ['\n']) rest
  | none => .gap ('-' :: '-' :: cs) []

/-- A comment to the first closing mark. -/
def blockComment (cs : Text) : Lexeme :=
  match Text.cut? ['*', '/'] cs with
  | some (body, rest) => .gap ('/' :: '*' :: body ++ ['*', '/']) rest
  | none => .unclosed .comment

/-- What stands at the start of the text `c :: cs`. -/
def read (c : Char) (cs : Text) : Lexeme :=
  if isGapChar c then .gap [c] cs
  else if c = '-' && cs.head? == some '-' then lineComment cs.tail
  else if c = '/' && cs.head? == some '*' then blockComment cs.tail
  else if c = '\'' then quoted .stringLiteral .string c cs
  else if c = '"' then quoted .quotedName .quotedName c cs
  else if c = '(' then .token .openParen [c] cs
  else if c = ')' then .token .closeParen [c] cs
  else if c = ',' then .token .comma [c] cs
  else plain c cs

/-- The characters passed and the rest, when there are any. -/
def parts? : Lexeme → Option (Text × Text)
  | .gap text rest => some (text, rest)
  | .token _ text rest => some (text, rest)
  | .unclosed _ => none

end Lexeme

namespace Lexer

theorem closeQuote?_eq_append {q : Char} {t body rest : Text}
    (h : closeQuote? q t = some (body, rest)) : t = body ++ rest := by
  fun_induction closeQuote? q t generalizing body rest with
  | case1 => simp at h
  | case2 => simp_all
  | case3 => simp_all
  | case4 _ ih =>
    obtain ⟨⟨b, r⟩, hb, hp⟩ := Option.map_eq_some_iff.1 h
    simp only [Prod.mk.injEq] at hp
    simp [ih hb, ← hp.1, ← hp.2]
  | case5 =>
    simp only [Option.some.injEq, Prod.mk.injEq] at h
    simp [← h.1, ← h.2]
  | case6 _ _ _ _ ih =>
    obtain ⟨⟨b, r⟩, hb, hp⟩ := Option.map_eq_some_iff.1 h
    simp only [Prod.mk.injEq] at hp
    simp [ih hb, ← hp.1, ← hp.2]

end Lexer

namespace Lexeme

open Lexer

theorem parts?_quoted {kind : TokenKind} {what : Delimited} {q : Char} {cs text rest : Text}
    (h : (quoted kind what q cs).parts? = some (text, rest)) :
    q :: cs = text ++ rest ∧ text ≠ [] := by
  unfold quoted at h
  split at h
  next body rest' hq =>
    simp only [parts?, Option.some.injEq, Prod.mk.injEq] at h
    simp [← h.1, ← h.2, closeQuote?_eq_append hq]
  next => simp [parts?] at h

theorem parts?_plain {c : Char} {cs text rest : Text}
    (h : (plain c cs).parts? = some (text, rest)) : c :: cs = text ++ rest ∧ text ≠ [] := by
  unfold plain at h
  split at h
  · simp only [taken, parts?, Option.some.injEq, Prod.mk.injEq] at h
    simp [← h.1, ← h.2]
  · split at h
    · simp only [parts?, Option.some.injEq, Prod.mk.injEq] at h
      simp [← h.1, ← h.2]
    · simp only [taken, parts?, Option.some.injEq, Prod.mk.injEq] at h
      simp [← h.1, ← h.2]

theorem parts?_lineComment {cs text rest : Text}
    (h : (lineComment cs).parts? = some (text, rest)) :
    '-' :: '-' :: cs = text ++ rest ∧ text ≠ [] := by
  unfold lineComment at h
  split at h
  next line rest' hc =>
    simp only [parts?, Option.some.injEq, Prod.mk.injEq] at h
    simp [← h.1, ← h.2, Text.eq_append_of_cutAt? hc]
  next =>
    simp only [parts?, Option.some.injEq, Prod.mk.injEq] at h
    simp [← h.1, ← h.2]

theorem parts?_blockComment {cs text rest : Text}
    (h : (blockComment cs).parts? = some (text, rest)) :
    '/' :: '*' :: cs = text ++ rest ∧ text ≠ [] := by
  unfold blockComment at h
  split at h
  next body rest' hc =>
    simp only [parts?, Option.some.injEq, Prod.mk.injEq] at h
    simp [← h.1, ← h.2, Text.eq_append_of_cut? hc]
  next => simp [parts?] at h

/-- A step takes at least one character, and what it takes with the rest is the text. -/
theorem read_parts {c : Char} {cs text rest : Text}
    (h : (read c cs).parts? = some (text, rest)) : c :: cs = text ++ rest ∧ text ≠ [] := by
  unfold read at h
  split at h
  · simp only [parts?, Option.some.injEq, Prod.mk.injEq] at h
    simp [← h.1, ← h.2]
  split at h
  next hc =>
    simp only [Bool.and_eq_true, decide_eq_true_eq, beq_iff_eq] at hc
    obtain ⟨ds, rfl⟩ := List.head?_eq_some_iff.1 hc.2
    exact hc.1 ▸ parts?_lineComment h
  split at h
  next hc =>
    simp only [Bool.and_eq_true, decide_eq_true_eq, beq_iff_eq] at hc
    obtain ⟨ds, rfl⟩ := List.head?_eq_some_iff.1 hc.2
    exact hc.1 ▸ parts?_blockComment h
  split at h
  · exact parts?_quoted h
  split at h
  · exact parts?_quoted h
  iterate 3
    split at h
    · simp only [parts?, Option.some.injEq, Prod.mk.injEq] at h
      simp [← h.1, ← h.2]
  exact parts?_plain h

theorem length_rest_lt {c : Char} {cs text rest : Text}
    (h : (read c cs).parts? = some (text, rest)) : rest.length < (c :: cs).length := by
  obtain ⟨ht, hn⟩ := read_parts h
  have : 0 < text.length := List.length_pos_iff.2 hn
  rw [ht, List.length_append]
  omega

end Lexeme

namespace Lexer

/-- The tokens of a text, the first of them spaced if `spaced` holds, or what is left open together
with the text from there on. -/
def scan (spaced : Bool) : Text → Except (Delimited × Text) (List Token)
  | [] => .ok []
  | c :: cs =>
    match _h : Lexeme.read c cs with
    | .gap _ rest => scan true rest
    | .token kind text rest => (scan false rest).map (⟨kind, text, spaced⟩ :: ·)
    | .unclosed what => .error (what, c :: cs)
termination_by t => t.length
decreasing_by
  · exact Lexeme.length_rest_lt (by rw [_h]; rfl)
  · exact Lexeme.length_rest_lt (by rw [_h]; rfl)

end Lexer

/-- The tokens of a statement. White space and comments leave only the mark that a token is
spaced. -/
def tokenize (sql : Text) : Except LexError (List Token) :=
  (Lexer.scan false sql).mapError fun e => ⟨e.1, sql.utf8Length - e.2.utf8Length⟩

end SqlGrader
