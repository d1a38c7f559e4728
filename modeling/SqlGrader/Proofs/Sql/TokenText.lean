import SqlGrader.Proofs.Sql.Rendering
/-!
# The characters of a token

What a token is made of follows from its first character: quoted tokens start
and end with their quote, parentheses and commas stand alone, and all others
consist of few classes of characters.
-/

namespace SqlGrader.Lexer

variable {c q : Char} {t rest r : Text}

theorem isNamePart_of_isAlpha (letter : c.isAlpha) : isNamePart c := by
  have range := Text.toNat_of_isAlpha letter
  have low : c.toNat < 128 := by omega
  simp [isNamePart, Text.isAlphanumeric, low, Char.isAlphanum, letter]

/-- White space in any script does not go on with a name. -/
theorem isNamePart_of_isBlank (blank : Text.isBlank c) : isNamePart c = false := by
  have same : c = Char.ofNat c.toNat := (Char.ofNat_toNat c).symm
  simp only [Text.isBlank, Bool.or_eq_true, Bool.and_eq_true, decide_eq_true_eq, beq_iff_eq]
    at blank
  generalize c.toNat = n at blank same
  subst same
  rcases blank with (((((((((⟨low, high⟩ | rfl) | rfl) | rfl) | rfl) | ⟨low, high⟩) | rfl) |
    rfl) | rfl) | rfl) | rfl
  · interval_cases n <;> decide
  · decide
  · decide +kernel
  · decide +kernel
  · decide +kernel
  · interval_cases n <;> decide +kernel
  all_goals decide +kernel

theorem not_isBlank_of_isNamePart (part : isNamePart c) : ¬ Text.isBlank c := by
  intro blank
  rw [isNamePart_of_isBlank blank] at part
  cases part

theorem isBlank_of_isGapChar (gap : isGapChar c) : Text.isBlank c := by
  simp only [isGapChar, Bool.or_eq_true, beq_iff_eq] at gap
  rcases gap with (((rfl | rfl) | rfl) | rfl) | rfl <;> rfl

theorem getLast?_of_closeQuote? {body : Text} (closes : closeQuote? q t = some (body, rest)) :
    body.getLast? = some q := by
  fun_induction closeQuote? q t generalizing body with
  | case1 => simp at closes
  | case2 =>
      simp only [Option.some.injEq, Prod.mk.injEq] at closes
      simp [← closes.1]
  | case3 => simp at closes
  | case4 cs ih =>
      obtain ⟨⟨inner, rest'⟩, found, same⟩ := Option.map_eq_some_iff.mp closes
      simp only [Prod.mk.injEq] at same
      obtain ⟨rfl, rfl⟩ := same
      simp [List.getLast?_cons, ih found]
  | case5 =>
      simp only [Option.some.injEq, Prod.mk.injEq] at closes
      simp [← closes.1]
  | case6 c d cs other ih =>
      obtain ⟨⟨inner, rest'⟩, found, same⟩ := Option.map_eq_some_iff.mp closes
      simp only [Prod.mk.injEq] at same
      obtain ⟨rfl, rfl⟩ := same
      simp [List.getLast?_cons, ih found]

/-- A quote that closes later is open where another character than it follows. -/
theorem closeQuote?_eq_none {d : Char} {body : Text}
    (closes : closeQuote? q (t ++ d :: r) = some (body, rest)) (later : t.length < body.length)
    (other : d ≠ q) :
    closeQuote? q t = none := by
  refine Option.eq_none_iff_forall_not_mem.mpr fun ⟨early, left⟩ found => ?_
  have whole := closeQuote?_eq_append found
  have single : (left ++ d :: r).head? ≠ some q := by
    have next := head?_of_closeQuote? found
    cases left with
    | nil => simpa using other
    | cons e es => exact next
  have again := closeQuote?_append found single
  rw [← List.append_assoc, ← whole, closes] at again
  obtain ⟨rfl, -⟩ := Prod.mk.inj (Option.some.inj again)
  rw [whole, List.length_append] at later
  omega

/-- The characters of numbers. -/
def isNumberChar (c : Char) : Bool :=
  c.isDigit || c == '.' || c == 'e' || c == 'E' || c == '+' || c == '-'

theorem isNumberChar_of_numberLength {pointSeen : Bool} {skip : Nat} {number : Text}
    (ends : numberLength pointSeen skip (number ++ rest) = number.length)
    (known : skip = 0 ∨ (skip = 1 ∧ number.head?.any fun c => c == '+' || c == '-')) :
    ∀ c ∈ number, isNumberChar c := by
  induction number generalizing pointSeen skip with
  | nil => simp
  | cons c cs ih =>
      rw [List.forall_mem_cons]
      rcases known with rfl | ⟨rfl, sign⟩
      · simp only [List.cons_append, numberLength, List.length_cons] at ends
        split at ends
        next digit =>
          exact ⟨by simp [isNumberChar, digit], ih (Nat.add_right_cancel ends) (.inl rfl)⟩
        split at ends
        next point =>
          have here : c = '.' := by simpa using (Bool.and_eq_true_iff.mp point).1
          exact ⟨by simp [isNumberChar, here], ih (Nat.add_right_cancel ends) (.inl rfl)⟩
        split at ends
        next n mark =>
          have inside := Nat.add_right_cancel ends
          obtain ⟨mark', -⟩ := exponentMark?_within mark inside []
          rw [List.append_nil] at mark'
          obtain ⟨e, s, more, same, letter, after⟩ := exponentMark?_eq_some.mp mark'
          obtain ⟨rfl, rfl⟩ := List.cons.inj same
          refine ⟨?_, ih inside ?_⟩
          · rcases letter with rfl | rfl <;> rfl
          · rcases after with ⟨rfl, -⟩ | ⟨rfl, sign, -⟩
            · exact .inl rfl
            · exact .inr ⟨rfl, by simpa using sign⟩
        next => simp at ends
      · simp only [List.cons_append, numberLength, List.length_cons, Nat.add_right_cancel_iff]
          at ends
        refine ⟨?_, ih ends (.inl rfl)⟩
        have here : c = '+' ∨ c = '-' := by simpa using sign
        rcases here with rfl | rfl <;> rfl

end SqlGrader.Lexer

namespace SqlGrader.Lexeme

open Lexer

variable {c : Char} {cs rest text : Text} {kind : TokenKind}

theorem quoted_eq_token {given : TokenKind} {what : Delimited} {q : Char}
    (reads : quoted given what q cs = .token kind text rest) :
    kind = given ∧ ∃ body, text = q :: body ∧ closeQuote? q cs = some (body, rest) := by
  unfold quoted at reads
  split at reads
  next body rest' closes =>
    obtain ⟨rfl, rfl, rfl⟩ := Lexeme.token.inj reads
    exact ⟨rfl, body, rfl, closes⟩
  next => cases reads

/-- A token is quoted, a mark of one character, or plain. -/
theorem read_cases (reads : read c cs = .token kind text rest) :
    (((kind = .stringLiteral ∧ c = '\'') ∨ (kind = .quotedName ∧ c = '"')) ∧
        ∃ body, text = c :: body ∧ closeQuote? c cs = some (body, rest)) ∨
      (((kind = .openParen ∧ c = '(') ∨ (kind = .closeParen ∧ c = ')') ∨
        (kind = .comma ∧ c = ',')) ∧ text = [c] ∧ cs = rest) ∨
      (c ∉ ['\'', '"', '(', ')', ','] ∧ plain c cs = .token kind text rest) := by
  unfold read at reads
  split at reads
  next => cases reads
  split at reads
  next =>
    unfold lineComment at reads
    split at reads <;> cases reads
  split at reads
  next =>
    unfold blockComment at reads
    split at reads <;> cases reads
  split at reads
  next single =>
    obtain ⟨same, closes⟩ := quoted_eq_token reads
    exact .inl ⟨.inl ⟨same, single⟩, closes⟩
  split at reads
  next double =>
    obtain ⟨same, closes⟩ := quoted_eq_token reads
    exact .inl ⟨.inr ⟨same, double⟩, closes⟩
  split at reads
  next opening =>
    obtain ⟨rfl, rfl, rfl⟩ := Lexeme.token.inj reads
    exact .inr (.inl ⟨.inl ⟨rfl, opening⟩, rfl, rfl⟩)
  split at reads
  next closing =>
    obtain ⟨rfl, rfl, rfl⟩ := Lexeme.token.inj reads
    exact .inr (.inl ⟨.inr (.inl ⟨rfl, closing⟩), rfl, rfl⟩)
  split at reads
  next comma =>
    obtain ⟨rfl, rfl, rfl⟩ := Lexeme.token.inj reads
    exact .inr (.inl ⟨.inr (.inr ⟨rfl, comma⟩), rfl, rfl⟩)
  next => exact .inr (.inr ⟨by simp_all, reads⟩)

/-- A quoted token goes from its quote to the quote that closes it. -/
theorem read_quoted (reads : read c cs = .token kind text rest)
    (isQuoted : kind = .stringLiteral ∨ kind = .quotedName) :
    (c = '\'' ∨ c = '"') ∧ ∃ body, text = c :: body ∧ closeQuote? c cs = some (body, rest) := by
  rcases read_cases reads with ⟨quote, closes⟩ | ⟨mark, -⟩ | ⟨-, unmarked⟩
  · exact ⟨quote.imp And.right And.right, closes⟩
  · rcases mark with ⟨rfl, -⟩ | ⟨rfl, -⟩ | ⟨rfl, -⟩ <;> simp at isQuoted
  · obtain ⟨tail, -, -, ⟨rfl, -⟩ | ⟨rfl, -⟩ | ⟨rfl, -⟩⟩ := plain_cases unmarked <;> simp at isQuoted

theorem read_single (cs : Text) : read '\'' cs = quoted .stringLiteral .string '\'' cs := rfl

theorem read_double (cs : Text) : read '"' cs = quoted .quotedName .quotedName '"' cs := rfl

theorem read_openParen (cs : Text) : read '(' cs = .token .openParen ['('] cs := rfl

/-- A plain token holds no quote, no parenthesis and no comma. -/
theorem free_of_plain (noMark : c ∉ ['\'', '"', '(', ')', ','])
    (reads : plain c cs = .token kind text rest) :
    ∀ d ∈ text, d ∉ ['\'', '"', '(', ')', ','] := by
  obtain ⟨tail, rfl, rfl, number | word | symbol⟩ := plain_cases reads
  · obtain ⟨-, -, -, len⟩ := number
    have chars : ∀ d ∈ c :: tail, isNumberChar d := isNumberChar_of_numberLength len (.inl rfl)
    have free : ['\'', '"', '(', ')', ','].all (!isNumberChar ·) := by decide
    intro d mem mark
    simpa [chars d mem] using List.all_eq_true.mp free d mark
  · obtain ⟨-, -, parts, -⟩ := word
    have free : ['\'', '"', '(', ')', ','].all (!isNamePart ·) := by decide
    refine List.forall_mem_cons.mpr ⟨noMark, fun d mem mark => ?_⟩
    simpa [parts d mem] using List.all_eq_true.mp free d mark
  · obtain ⟨-, -, -, len⟩ := symbol
    have len' : symbolLength (c :: tail ++ rest) = (c :: tail).length := len
    rcases symbol_cases len' with ⟨op, known, same⟩ | single
    · have free : operators.all fun op =>
          op.toList.all fun d => d ∉ ['\'', '"', '(', ')', ','] := by decide
      rw [← same]
      intro d mem
      simpa using List.all_eq_true.mp (List.all_eq_true.mp free op known) d mem
    · obtain rfl : tail = [] := by simpa using single
      simpa using noMark

/-- Outside of quotes a closing parenthesis is a token of its own. -/
theorem closeParen_of_mem (reads : read c cs = .token kind text rest) (mem : ')' ∈ text)
    (unquoted : kind ≠ .stringLiteral ∧ kind ≠ .quotedName) :
    kind = .closeParen ∧ text = [')'] := by
  rcases read_cases reads with ⟨quote, -⟩ | ⟨mark, rfl, -⟩ | ⟨noMark, unmarked⟩
  · rcases quote with ⟨rfl, -⟩ | ⟨rfl, -⟩ <;> simp at unquoted
  · obtain rfl := List.mem_singleton.mp mem
    rcases mark with ⟨-, other⟩ | ⟨rfl, -⟩ | ⟨-, other⟩
    · cases other
    · exact ⟨rfl, rfl⟩
    · cases other
  · exact absurd (by simp) (free_of_plain noMark unmarked _ mem)

end SqlGrader.Lexeme
