/-!
# Text

SQL statements, fragments of them and connection strings are lists of characters: the rules of this
library are recursions over them. This module holds the operations on texts that know nothing of
SQL: trimming, cutting at a delimiter and comparing up to the case of ASCII letters.

Positions are character positions, except where `utf8Length` says otherwise.
-/

namespace SqlGrader

/-- A text as the list of its characters. -/
abbrev Text := List Char

namespace Text

/-- The number of bytes of the UTF-8 encoding. -/
def utf8Length : Text → Nat
  | [] => 0
  | c :: cs => c.utf8Size + utf8Length cs

/-- The characters of the Unicode property `White_Space`. -/
def isBlank (c : Char) : Bool :=
  let n := c.toNat
  (0x9 ≤ n && n ≤ 0xD) || n == 0x20 || n == 0x85 || n == 0xA0 || n == 0x1680 ||
    (0x2000 ≤ n && n ≤ 0x200A) || n == 0x2028 || n == 0x2029 || n == 0x202F || n == 0x205F ||
    n == 0x3000

/-- Drops characters that satisfy `p` from the end. -/
def dropEndWhile (p : Char → Bool) (t : Text) : Text := (t.reverse.dropWhile p).reverse

def trimStart (t : Text) : Text := t.dropWhile isBlank

def trimEnd (t : Text) : Text := dropEndWhile isBlank t

/-- The text without white space at its ends. -/
def trim (t : Text) : Text := trimEnd (trimStart t)

/-- Whether the text holds nothing but white space. -/
def isAllBlank (t : Text) : Bool := t.all isBlank

/-- Capitals for the ASCII letters; all else is kept. -/
def upper (t : Text) : Text := t.map Char.toUpper

/-- Small letters for the ASCII letters; all else is kept. -/
def lower (t : Text) : Text := t.map Char.toLower

/-- Equality up to the case of ASCII letters. -/
def equalsIgnoringCase (s t : Text) : Bool := upper s == upper t

/-- The rest of `t` after `start`, when `t` begins with it. -/
def dropStart? : (start t : Text) → Option Text
  | [], t => some t
  | _ :: _, [] => none
  | c :: cs, d :: ds => if c = d then dropStart? cs ds else none

/-- The rest of `t` after `start`, when `t` begins with it up to the case of ASCII letters. -/
def dropStartIgnoringCase? (start t : Text) : Option Text :=
  if equalsIgnoringCase start (t.take start.length) then some (t.drop start.length) else none

/-- The texts before and after the first occurrence of `sep`. -/
def cut? (sep : Text) : Text → Option (Text × Text)
  | [] => if sep = [] then some ([], []) else none
  | c :: cs =>
    match dropStart? sep (c :: cs) with
    | some rest => some ([], rest)
    | none => (cut? sep cs).map fun p => (c :: p.1, p.2)

/-- The texts before and after the first character `d`. -/
def cutAt? (d : Char) : Text → Option (Text × Text)
  | [] => none
  | c :: cs => if c = d then some ([], cs) else (cutAt? d cs).map fun p => (c :: p.1, p.2)

theorem eq_append_of_dropStart? {start t rest : Text} (h : dropStart? start t = some rest) :
    t = start ++ rest := by
  induction start generalizing t with
  | nil => simpa [dropStart?] using h
  | cons c cs ih =>
    cases t with
    | nil => simp [dropStart?] at h
    | cons d ds =>
      simp only [dropStart?] at h
      split at h
      next hc => simp [hc, ih h]
      next => simp at h

theorem eq_append_of_cut? {sep t before after : Text} (h : cut? sep t = some (before, after)) :
    t = before ++ sep ++ after := by
  induction t generalizing before after with
  | nil =>
    simp only [cut?] at h
    split at h <;> simp_all
  | cons c cs ih =>
    simp only [cut?] at h
    split at h
    next rest hr =>
      simp only [Option.some.injEq, Prod.mk.injEq] at h
      simpa [← h.1, ← h.2] using eq_append_of_dropStart? hr
    next =>
      obtain ⟨⟨b, a⟩, hb, hp⟩ := Option.map_eq_some_iff.1 h
      simp only [Prod.mk.injEq] at hp
      simp [ih hb, ← hp.1, ← hp.2]

theorem eq_append_of_cutAt? {d : Char} {t before after : Text}
    (h : cutAt? d t = some (before, after)) : t = before ++ d :: after := by
  induction t generalizing before after with
  | nil => simp [cutAt?] at h
  | cons c cs ih =>
    simp only [cutAt?] at h
    split at h
    next hc => simp_all
    next =>
      obtain ⟨⟨b, a⟩, hb, hp⟩ := Option.map_eq_some_iff.1 h
      simp only [Prod.mk.injEq] at hp
      simp [ih hb, ← hp.1, ← hp.2]

/-- The texts before and after the last character `d`. -/
def cutAtLast? (d : Char) : Text → Option (Text × Text)
  | [] => none
  | c :: cs =>
    match cutAtLast? d cs with
    | some p => some (c :: p.1, p.2)
    | none => if c = d then some ([], cs) else none

/-- The pieces between the characters `d`: always one more than there are of them. -/
def splitAt (d : Char) : Text → List Text
  | [] => [[]]
  | c :: cs =>
    if c = d then [] :: splitAt d cs
    else match splitAt d cs with
      | [] => [[c]]
      | piece :: pieces => (c :: piece) :: pieces

/-- The texts one after the other with `sep` between neighbours. -/
def joinWith (sep : Text) : List Text → Text
  | [] => []
  | [t] => t
  | t :: ts => t ++ sep ++ joinWith sep ts

/-- The words: maximal stretches without white space. -/
def words (t : Text) : List Text :=
  (t.splitOnP isBlank).filter fun w => !w.isEmpty

end Text

end SqlGrader
