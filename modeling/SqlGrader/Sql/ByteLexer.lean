import SqlGrader.Sql.Lexer
import SqlGrader.Text.Bytes
/-!
# Reading tokens by byte offset

The tokens of a statement, read off its UTF-8 encoding from offset to offset. White space, quotes
and numbers are looked for byte by byte, the rest in the characters from an offset on. There are
none at an offset inside of a character: a statement is not read any further from there.
-/

namespace SqlGrader.ByteLexer

/-- Why a statement is not read to its end. -/
inductive Stop
  | unclosed (e : LexError)
  /-- A cut at an offset where no character starts. -/
  | inside (offset : Nat)
  deriving Repr, DecidableEq

/-- The text from an offset on. -/
def textFrom (sql : Text) (start : Nat) : Except Stop Text :=
  match sql.splitAtByte? start with
  | some (_, rest) => .ok rest
  | none => .error (.inside start)

/-- The text between two offsets. -/
def textBetween (sql : Text) (start stop : Nat) : Except Stop Text := do
  let rest ← textFrom sql start
  match Text.splitAtByte? (stop - start) rest with
  | some (text, _) => .ok text
  | none => .error (.inside stop)

/-! ### Where a token ends -/

/-- The number of bytes up to and with the closing quote. A doubled quote belongs to the contents.
-/
def quotedLength? (quote : Char) : List UInt8 → Option Nat
  | [] => none
  | [b] => if .ofUInt8 b = quote then some 1 else none
  | b :: d :: bs =>
    if .ofUInt8 b = quote then
      if .ofUInt8 d = quote then (quotedLength? quote bs).map (· + 2) else some 1
    else (quotedLength? quote (d :: bs)).map (· + 1)

def isDigit (b : UInt8) : Bool := (Char.ofUInt8 b).isDigit

/-- The length of the sign that comes before a digit, if a digit comes. -/
def signLength? (bs : List UInt8) : Option Nat :=
  let sign := if bs.head?.any fun s => Char.ofUInt8 s == '+' || Char.ofUInt8 s == '-' then 1 else 0
  if (bs.drop sign).head?.any isDigit then some sign else none

/-- The number of bytes of the longest number. A point may stand once and not after an exponent;
exponents may follow one another. -/
def numberLength (pointSeen : Bool) : List UInt8 → Nat
  | [] => 0
  | b :: bs =>
    if isDigit b then numberLength pointSeen bs + 1
    else if Char.ofUInt8 b = '.' && !pointSeen then numberLength true bs + 1
    else if Char.ofUInt8 b = 'e' || Char.ofUInt8 b = 'E' then
      match signLength? bs with
      | some sign => numberLength true (bs.drop sign) + sign + 1
      | none => 0
    else 0
termination_by bs => bs.length
decreasing_by all_goals simp only [List.length_cons, List.length_drop]; omega

/-- The number of bytes of a word: its first character, whichever it is, and the characters that go
on with it. -/
def wordLength : Text → Nat
  | [] => 1
  | c :: cs => c.utf8Size + Text.utf8Length (cs.takeWhile Lexer.isNamePart)

/-- The number of bytes of the operator or punctuation mark at the start of a text. -/
def symbolLength (t : Text) : Nat :=
  match Lexer.operators.find? fun op => op.toList.isPrefixOf t with
  | some op => Text.utf8Length op.toList
  | none => 1

/-! ### One step -/

/-- What stands at an offset, and the offset after it. -/
inductive Step
  | gap (stop : Nat)
  | token (kind : TokenKind) (stop : Nat)
  deriving Repr, DecidableEq

def Step.stop : Step → Nat
  | .gap stop => stop
  | .token _ stop => stop

/-- A token of kind `kind` from a quote on. -/
def quoted (sql : Text) (kind : TokenKind) (what : Delimited) (quote : Char) (start : Nat) :
    Except Stop Step :=
  match quotedLength? quote (sql.bytes.drop (start + 1)) with
  | some n => .ok (.token kind (start + 1 + n))
  | none => .error (.unclosed ⟨what, start⟩)

/-- A token that starts with none of the bytes that have a rule of their own. -/
def plain (sql : Text) (start : Nat) (b : UInt8) : Except Stop Step := do
  if isDigit b || (Char.ofUInt8 b == '.' && sql.bytes[start + 1]?.any isDigit) then
    .ok (.token .number (start + numberLength false (sql.bytes.drop start)))
  else
    let rest ← textFrom sql start
    if Lexer.isNameStart (.ofUInt8 b) then .ok (.token .word (start + wordLength rest))
    else .ok (.token .symbol (start + symbolLength rest))

/-- A comment to the end of the line, the line end included. -/
def lineComment (sql : Text) (start : Nat) (rest : Text) : Step :=
  match Text.cutAt? '\n' rest with
  | some (line, _) => .gap (start + line.utf8Length + 1)
  | none => .gap sql.bytes.length

/-- A comment to the first closing mark. -/
def blockComment (sql : Text) (start : Nat) : Except Stop Step := do
  let inner ← textFrom sql (start + 2)
  match Text.cut? ['*', '/'] inner with
  | some (body, _) => .ok (.gap (start + 2 + body.utf8Length + 2))
  | none => .error (.unclosed ⟨.comment, start⟩)

/-- What stands at an offset with the byte `b`. -/
def step (sql : Text) (start : Nat) (b : UInt8) : Except Stop Step := do
  if Lexer.isGapChar (.ofUInt8 b) then .ok (.gap (start + 1))
  else
    let rest ← textFrom sql start
    if ['-', '-'].isPrefixOf rest then .ok (lineComment sql start rest)
    else if ['/', '*'].isPrefixOf rest then blockComment sql start
    else if Char.ofUInt8 b = '\'' then quoted sql .stringLiteral .string '\'' start
    else if Char.ofUInt8 b = '"' then quoted sql .quotedName .quotedName '"' start
    else if Char.ofUInt8 b = '(' then .ok (.token .openParen (start + 1))
    else if Char.ofUInt8 b = ')' then .ok (.token .closeParen (start + 1))
    else if Char.ofUInt8 b = ',' then .ok (.token .comma (start + 1))
    else plain sql start b

/-! ### All steps -/

/-- What is made of a result is a result only if there was one. -/
theorem exists_of_bind {α β : Type} {x : Except Stop α} {f : α → Except Stop β} {r : β}
    (made : x >>= f = .ok r) : ∃ a, x = .ok a ∧ f a = .ok r := by
  cases x with
  | error stop => cases made
  | ok a => exact ⟨a, rfl, made⟩

theorem numberLength_pos {b : UInt8} {bs : List UInt8}
    (starts : isDigit b ∨ Char.ofUInt8 b = '.') : 0 < numberLength false (b :: bs) := by
  rw [numberLength]
  rcases starts with digit | point
  · simp [digit]
  · by_cases digit : isDigit b
    · simp [digit]
    · simp [digit, point]

theorem wordLength_pos (t : Text) : 0 < wordLength t := by
  cases t with
  | nil => exact Nat.one_pos
  | cons c cs => exact Nat.add_pos_left c.utf8Size_pos _

theorem symbolLength_pos (t : Text) : 0 < symbolLength t := by
  have positive : ∀ op ∈ Lexer.operators, 0 < Text.utf8Length op.toList := by decide
  unfold symbolLength
  split
  next op found => exact positive op (List.mem_of_find?_eq_some found)
  next => exact Nat.one_pos

variable {sql : Text} {start : Nat} {b : UInt8} {s : Step}

theorem lt_stop_of_quoted {kind : TokenKind} {what : Delimited} {quote : Char}
    (taken : quoted sql kind what quote start = .ok s) : start < s.stop := by
  unfold quoted at taken
  split at taken
  · cases taken
    exact Nat.lt_add_right _ (Nat.lt_succ_self start)
  · cases taken

theorem lt_stop_of_plain (here : sql.bytes[start]? = some b) (taken : plain sql start b = .ok s) :
    start < s.stop := by
  obtain ⟨inside, same⟩ := List.getElem?_eq_some_iff.1 here
  unfold plain at taken
  split at taken
  next starts =>
    cases taken
    have positive : 0 < numberLength false (sql.bytes.drop start) := by
      rw [List.drop_eq_getElem_cons inside, same]
      refine numberLength_pos ?_
      simp only [Bool.or_eq_true, Bool.and_eq_true, beq_iff_eq] at starts
      exact starts.imp_right And.left
    exact Nat.lt_add_of_pos_right positive
  next =>
    obtain ⟨rest, -, taken⟩ := exists_of_bind taken
    split at taken <;> cases taken
    · exact Nat.lt_add_of_pos_right (wordLength_pos rest)
    · exact Nat.lt_add_of_pos_right (symbolLength_pos rest)

theorem lt_stop_lineComment (inside : start < sql.bytes.length) (rest : Text) :
    start < (lineComment sql start rest).stop := by
  unfold lineComment
  split
  · exact Nat.lt_succ_of_le (Nat.le_add_right ..)
  · exact inside

theorem lt_stop_of_blockComment (taken : blockComment sql start = .ok s) : start < s.stop := by
  obtain ⟨inner, -, taken⟩ := exists_of_bind taken
  split at taken
  · cases taken
    simp only [Step.stop]
    omega
  · cases taken

/-- A step goes beyond the byte that it starts with. -/
theorem lt_stop_of_step (here : sql.bytes[start]? = some b) (taken : step sql start b = .ok s) :
    start < s.stop := by
  obtain ⟨inside, -⟩ := List.getElem?_eq_some_iff.1 here
  unfold step at taken
  split at taken
  · cases taken
    exact Nat.lt_succ_self start
  obtain ⟨rest, -, taken⟩ := exists_of_bind taken
  split at taken
  · cases taken
    exact lt_stop_lineComment inside rest
  split at taken
  · exact lt_stop_of_blockComment taken
  iterate 2
    split at taken
    · exact lt_stop_of_quoted taken
  iterate 3
    split at taken
    · cases taken
      exact Nat.lt_succ_self start
  exact lt_stop_of_plain here taken

/-- The tokens from an offset on, the first of them spaced if `spaced` holds. -/
def tokensFrom (sql : Text) (spaced : Bool) (start : Nat) : Except Stop (List Token) :=
  match _here : sql.bytes[start]? with
  | none => .ok []
  | some b =>
    match _taken : step sql start b with
    | .error stop => .error stop
    | .ok (.gap stop) => tokensFrom sql true stop
    | .ok (.token kind stop) =>
      (textBetween sql start stop).bind fun text =>
        (tokensFrom sql false stop).map (⟨kind, text, spaced⟩ :: ·)
termination_by sql.bytes.length - start
decreasing_by
  all_goals
    obtain ⟨inside, -⟩ := List.getElem?_eq_some_iff.1 _here
    have further := lt_stop_of_step _here _taken
    simp only [Step.stop] at further
    omega

/-- The tokens of a statement. -/
def tokenize (sql : Text) : Except Stop (List Token) := tokensFrom sql false 0

end SqlGrader.ByteLexer
