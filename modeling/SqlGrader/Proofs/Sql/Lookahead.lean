import SqlGrader.Proofs.Text.Case
/-!
# What the lexer reads ahead

A token ends where the characters after it do not go on with it. `Echo s r` says
that `r` repeats `s`, letter case aside, up to a space, a semicolon, a closing
parenthesis or the end of `r`. Whatever ends a token before `s` ends it before
`r` too: none of these goes on with a token, and all else stands in both texts.
-/

namespace SqlGrader.Lexer

/-- The characters that no token goes on with, whatever it is. -/
def isStop (c : Char) : Bool := c == ' ' || c == ';' || c == ')'

/-- The second text repeats the first, letter case aside, up to a space, a
semicolon, a closing parenthesis or its own end. -/
inductive Echo : Text → Text → Prop
  | ended (s : Text) : Echo s []
  | stop {d : Char} (s r : Text) (stops : isStop d) : Echo s (d :: r)
  | cons {c d : Char} {s r : Text} :
      c.toUpper = d.toUpper → Echo s r → Echo (c :: s) (d :: r)

namespace Echo

variable {c d : Char} {s r : Text}

theorem blank (s r : Text) : Echo s (' ' :: r) := .stop s r rfl

theorem append_left (text : Text) (echo : Echo s r) : Echo (text ++ s) (text ++ r) := by
  induction text with
  | nil => exact echo
  | cons c cs ih => exact .cons rfl ih

theorem of_upper (same : Text.upper s = Text.upper r) : Echo s r := by
  induction r generalizing s with
  | nil => exact .ended s
  | cons d r ih =>
      cases s with
      | nil => simp [Text.upper] at same
      | cons c s =>
          simp only [Text.upper, List.map_cons, List.cons.injEq] at same
          exact .cons same.1 (ih same.2)

theorem of_isPrefix (text more : Text) : Echo (text ++ more) text := by
  simpa using append_left text (.ended more)

theorem uncons (echo : Echo s (d :: r)) (mark : isStop d = false) :
    ∃ c s', s = c :: s' ∧ c.toUpper = d.toUpper ∧ Echo s' r := by
  cases echo with
  | stop _ _ stops => exact absurd stops (by simp [mark])
  | cons same rest => exact ⟨_, _, rfl, same, rest⟩

/-- What stands at the start of the second text and has no letters and no stops
stands at the start of the first. -/
theorem prefix_of_caseless {mark : Text}
    (caseless : ∀ d ∈ mark, d.isAlpha = false ∧ isStop d = false)
    (echo : Echo s r) (starts : mark <+: r) :
    mark <+: s := by
  induction mark generalizing s r with
  | nil => exact List.nil_prefix
  | cons d mark ih =>
      obtain ⟨more, rfl⟩ := starts
      have here := caseless d (by simp)
      obtain ⟨c, s', rfl, same, rest⟩ := echo.uncons here.2
      obtain rfl := Text.eq_of_toUpper_eq same here.1
      refine List.cons_prefix_cons.mpr ⟨rfl, ?_⟩
      exact ih (fun d hd => caseless d (by simp [hd])) rest (List.prefix_append _ _)

theorem head_of_caseless (caseless : d.isAlpha = false) (mark : isStop d = false) (echo : Echo s r)
    (starts : r.head? = some d) :
    s.head? = some d := by
  obtain ⟨more, rfl⟩ := List.head?_eq_some_iff.mp starts
  obtain ⟨c, s', rfl, same, -⟩ := echo.uncons mark
  simp [Text.eq_of_toUpper_eq same caseless]

/-- A class of characters that is blind to letter case and without the stops. -/
theorem head_of_class {p : Char → Bool} (blind : ∀ c, p c.toUpper = p c)
    (goesOn : (p ' ' || p ';' || p ')') = false) (echo : Echo s r) (starts : r.head?.any p) :
    s.head?.any p := by
  rw [Bool.or_eq_false_iff, Bool.or_eq_false_iff] at goesOn
  cases echo with
  | ended => exact absurd starts (by simp)
  | stop _ _ stops =>
      simp only [isStop, Bool.or_eq_true, beq_iff_eq] at stops
      rcases stops with (rfl | rfl) | rfl <;> simp [goesOn] at starts
  | cons same rest =>
      rw [List.head?_cons, Option.any_some] at starts ⊢
      rw [← blind, same, blind]
      exact starts

end Echo

variable {c : Char} {rest r : Text}

/-! ### Classes of characters -/

theorem isNamePart_toUpper (c : Char) : isNamePart c.toUpper = isNamePart c := by
  obtain same | ⟨small, capital, low, low', -⟩ := Text.toUpper_cases c
  · rw [same]
  · simp [isNamePart, Text.isAlphanumeric, Char.isAlphanum, Text.isAlpha_iff.mpr (.inl capital),
      Text.isAlpha_iff.mpr (.inr small), low, low']

theorem isNameStart_toUpper (c : Char) : isNameStart c.toUpper = isNameStart c := by
  obtain same | ⟨small, capital, -⟩ := Text.toUpper_cases c
  · rw [same]
  · simp [isNameStart, Text.isAlpha_iff.mpr (.inl capital), Text.isAlpha_iff.mpr (.inr small)]

theorem isDigit_toUpper (c : Char) : c.toUpper.isDigit = c.isDigit := by
  obtain same | ⟨small, capital, -⟩ := Text.toUpper_cases c
  · rw [same]
  · rw [Text.isUpper_iff] at capital
    rw [Text.isLower_iff] at small
    have noDigit : ∀ d : Char, 65 ≤ d.toNat → d.isDigit = false := by
      intro d high
      rw [Bool.eq_false_iff, Ne, Text.isDigit_iff]
      omega
    rw [noDigit _ capital.1, noDigit _ (by omega)]

theorem isNameStart_of_digit (digit : c.isDigit) : isNameStart c = false := by
  obtain ⟨low, high⟩ := Text.isDigit_iff.mp digit
  have same : c = Char.ofNat c.toNat := (Char.ofNat_toNat c).symm
  generalize c.toNat = n at low high same
  subst same
  interval_cases n <;> rfl

/-! ### Quoted tokens -/

@[simp] theorem closeQuote?_self {q : Char} (single : rest.head? ≠ some q) :
    closeQuote? q (q :: rest) = some ([q], rest) := by
  cases rest with
  | nil => simp [closeQuote?]
  | cons d ds =>
      have other : d ≠ q := by simpa using single
      simp [closeQuote?, other]

theorem closeQuote?_ne {q : Char} (other : c ≠ q) (t : Text) :
    closeQuote? q (c :: t) = (closeQuote? q t).map fun p => (c :: p.1, p.2) := by
  cases t with
  | nil => simp [closeQuote?, other]
  | cons d ds => simp [closeQuote?, other]

theorem head?_of_closeQuote? {q : Char} {t body : Text}
    (closes : closeQuote? q t = some (body, rest)) :
    rest.head? ≠ some q := by
  fun_induction closeQuote? q t generalizing body with
  | case1 => simp at closes
  | case2 =>
      simp only [Option.some.injEq, Prod.mk.injEq] at closes
      simp [← closes.2]
  | case3 => simp at closes
  | case4 cs ih | case6 c d cs other ih =>
      obtain ⟨⟨inner, rest'⟩, found, same⟩ := Option.map_eq_some_iff.mp closes
      simp only [Prod.mk.injEq] at same
      obtain ⟨rfl, rfl⟩ := same
      exact ih found
  | case5 d cs other =>
      simp only [Option.some.injEq, Prod.mk.injEq] at closes
      simpa [← closes.2] using other

/-- A quote closes in the same place whatever comes next, a second quote apart. -/
theorem closeQuote?_append {q : Char} {t body : Text}
    (closes : closeQuote? q t = some (body, rest)) (single : r.head? ≠ some q) :
    closeQuote? q (body ++ r) = some (body, r) := by
  fun_induction closeQuote? q t generalizing body with
  | case1 => simp at closes
  | case2 | case5 =>
      simp only [Option.some.injEq, Prod.mk.injEq] at closes
      obtain ⟨rfl, rfl⟩ := closes
      exact closeQuote?_self single
  | case3 => simp at closes
  | case4 cs ih =>
      obtain ⟨⟨inner, rest'⟩, found, same⟩ := Option.map_eq_some_iff.mp closes
      simp only [Prod.mk.injEq] at same
      obtain ⟨rfl, rfl⟩ := same
      simp [closeQuote?, ih found]
  | case6 c d cs other ih =>
      obtain ⟨⟨inner, rest'⟩, found, same⟩ := Option.map_eq_some_iff.mp closes
      simp only [Prod.mk.injEq] at same
      obtain ⟨rfl, rfl⟩ := same
      rw [List.cons_append, closeQuote?_ne other, ih found]
      rfl

/-- A quote that closes before a text closes before every echo of it. -/
theorem closeQuote?_echo {q : Char} {t body : Text} (caseless : q.isAlpha = false)
    (mark : isStop q = false) (closes : closeQuote? q t = some (body, rest)) (echo : Echo rest r) :
    closeQuote? q (body ++ r) = some (body, r) :=
  closeQuote?_append closes fun same =>
    head?_of_closeQuote? closes (echo.head_of_caseless caseless mark same)

/-! ### Numbers -/

theorem isExponentLetter_of_toUpper {d : Char} (same : c.toUpper = d.toUpper)
    (letter : d = 'e' ∨ d = 'E') :
    c = 'e' ∨ c = 'E' := by
  have capital : c.toUpper = 'E' := by
    rw [same]
    rcases letter with rfl | rfl <;> rfl
  obtain kept | ⟨-, -, -, -, back, -⟩ := Text.toUpper_cases c
  · exact .inr (kept.symm.trans capital)
  · rw [capital] at back
    exact .inl back.symm

theorem isSign_of_digit (digit : c.isDigit) : (c == '+' || c == '-') = false := by
  simp only [Bool.or_eq_false_iff, beq_eq_false_iff_ne]
  constructor
  all_goals
    rintro rfl
    exact absurd digit (by decide)

/-- An exponent mark is the letter and a digit, or the letter, a sign and a digit. -/
theorem exponentMark?_eq_some {t : Text} {n : Nat} :
    exponentMark? t = some n ↔
      ∃ e s more, t = e :: s :: more ∧ (e = 'e' ∨ e = 'E') ∧
        ((n = 1 ∧ s.isDigit) ∨ (n = 2 ∧ (s = '+' ∨ s = '-') ∧ more.head?.any Char.isDigit)) := by
  match t with
  | [] => simp [exponentMark?]
  | [_] => simp [exponentMark?]
  | [e, s] =>
      simp only [exponentMark?]
      grind
  | e :: s :: d :: more =>
      have := @isSign_of_digit s
      simp only [exponentMark?]
      grind

/-- A text in which an exponent follows is the echo of such a text only. -/
theorem exponentMark?_echo {n : Nat} (echo : Echo rest r) (mark : exponentMark? r = some n) :
    exponentMark? rest = some n := by
  obtain ⟨e, s, more, rfl, letter, after⟩ := exponentMark?_eq_some.mp mark
  have goesOn : isStop e = false ∧ isStop s = false := by
    constructor
    · rcases letter with rfl | rfl <;> decide
    · rw [Bool.eq_false_iff]
      intro stops
      simp only [isStop, Bool.or_eq_true, beq_iff_eq] at stops
      rcases stops with (rfl | rfl) | rfl <;> simp at after
  obtain ⟨e', s', rfl, sameE, echo⟩ := echo.uncons goesOn.1
  obtain ⟨s'', more', rfl, sameS, echo⟩ := echo.uncons goesOn.2
  refine exponentMark?_eq_some.mpr
    ⟨e', s'', more', rfl, isExponentLetter_of_toUpper sameE letter, ?_⟩
  rcases after with ⟨rfl, digit⟩ | ⟨rfl, sign, digit⟩
  · refine .inl ⟨rfl, ?_⟩
    rw [← isDigit_toUpper, sameS, isDigit_toUpper]
    exact digit
  · refine .inr ⟨rfl, ?_, echo.head_of_class isDigit_toUpper (by decide) digit⟩
    rcases sign with rfl | rfl
    · exact .inl (Text.eq_of_toUpper_eq sameS (by decide))
    · exact .inr (Text.eq_of_toUpper_eq sameS (by decide))

/-- Where a number does not go on: no digit, no first point and no exponent. -/
theorem numberLength_eq_zero {pointSeen : Bool} {t : Text} :
    numberLength pointSeen 0 t = 0 ↔
      ¬ t.head?.any Char.isDigit ∧ (pointSeen = false → t.head? ≠ some '.') ∧
        exponentMark? t = none := by
  cases t with
  | nil => simp [numberLength, exponentMark?]
  | cons c cs =>
      simp only [numberLength, List.head?_cons, Option.any_some]
      grind

/-- The exponent mark of a number lies in the number, with the digit after it,
whatever comes next. -/
theorem exponentMark?_within {n : Nat} {e : Char} {number : Text}
    (mark : exponentMark? (e :: (number ++ rest)) = some n)
    (ends : numberLength true (n - 1) (number ++ rest) = number.length) (r : Text) :
    exponentMark? (e :: (number ++ r)) = some n ∧ n - 1 ≤ number.length := by
  obtain ⟨_, s, more, same, letter, after⟩ := exponentMark?_eq_some.mp mark
  obtain ⟨rfl, follows⟩ := List.cons.inj same
  rw [exponentMark?_eq_some]
  cases number with
  | nil =>
      rw [List.nil_append] at follows ends
      subst follows
      rcases after with ⟨rfl, digit⟩ | ⟨rfl, -⟩
      · exact absurd (numberLength_eq_zero.mp ends).1 (by simp [digit])
      · simp [numberLength] at ends
  | cons c cs =>
      obtain ⟨rfl, rfl⟩ := List.cons.inj follows
      refine ⟨⟨e, c, cs ++ r, rfl, letter, ?_⟩, ?_⟩
      · rcases after with one | ⟨rfl, sign, digit⟩
        · exact .inl one
        · refine .inr ⟨rfl, sign, ?_⟩
          cases cs with
          | nil =>
              simp only [List.cons_append, numberLength, List.length_cons,
                Nat.add_right_cancel_iff] at ends
              exact absurd digit (numberLength_eq_zero.mp ends).1
          | cons d ds => exact digit
      · rcases after with ⟨rfl, -⟩ | ⟨rfl, -⟩ <;> simp

/-- A number that ends before a text ends before every echo of it. -/
theorem numberLength_echo {pointSeen : Bool} {skip : Nat} {number : Text}
    (ends : numberLength pointSeen skip (number ++ rest) = number.length)
    (known : skip ≤ number.length) (echo : Echo rest r) :
    numberLength pointSeen skip (number ++ r) = number.length := by
  induction number generalizing pointSeen skip with
  | nil =>
      obtain rfl : skip = 0 := Nat.le_zero.mp known
      obtain ⟨digit, point, mark⟩ := numberLength_eq_zero.mp ends
      refine numberLength_eq_zero.mpr ⟨?_, ?_, ?_⟩
      · exact fun here => digit (echo.head_of_class isDigit_toUpper (by decide) here)
      · exact fun unseen here => point unseen (echo.head_of_caseless (by decide) (by decide) here)
      · refine Option.eq_none_iff_forall_not_mem.mpr fun n here => ?_
        rw [List.nil_append, exponentMark?_echo echo here] at mark
        cases mark
  | cons c cs ih =>
      match skip with
      | n + 1 =>
          simp only [List.cons_append, numberLength, List.length_cons, Nat.add_right_cancel_iff]
            at ends ⊢
          exact ih ends (Nat.le_of_succ_le_succ known)
      | 0 =>
          simp only [List.cons_append, numberLength, List.length_cons] at ends ⊢
          split at ends
          next digit =>
            rw [if_pos digit, ih (Nat.add_right_cancel ends) (Nat.zero_le _)]
          next digit =>
            rw [if_neg digit]
            split at ends
            next point =>
              rw [if_pos point, ih (Nat.add_right_cancel ends) (Nat.zero_le _)]
            next point =>
              rw [if_neg point]
              split at ends
              next n mark =>
                have inside := Nat.add_right_cancel ends
                obtain ⟨mark', known'⟩ := exponentMark?_within mark inside r
                simp only [mark', ih inside known']
              next => simp at ends

theorem numberLength_le (pointSeen : Bool) (skip : Nat) (t : Text) :
    numberLength pointSeen skip t ≤ t.length := by
  induction t generalizing pointSeen skip with
  | nil => simp [numberLength]
  | cons c cs ih =>
      simp only [numberLength, List.length_cons]
      repeat' split
      all_goals first | exact Nat.succ_le_succ (ih _ _) | exact Nat.zero_le _

/-- A number takes the character that it starts with, and the digit after a point. -/
theorem numberLength_of_startsNumber {cs : Text} (starts : startsNumber c cs) :
    ∃ n, numberLength false 0 (c :: cs) = n + 1 ∧ (c = '.' → 0 < n) := by
  simp only [startsNumber, Bool.or_eq_true, Bool.and_eq_true, beq_iff_eq] at starts
  by_cases digit : c.isDigit
  · refine ⟨numberLength false 0 cs, by simp [numberLength, digit], ?_⟩
    rintro rfl
    exact absurd digit (by decide)
  · obtain ⟨rfl, next⟩ := starts.resolve_left digit
    refine ⟨numberLength true 0 cs, by simp [numberLength], fun _ => ?_⟩
    refine Nat.pos_of_ne_zero fun none => ?_
    exact (numberLength_eq_zero.mp none).1 next

/-! ### Operators -/

theorem operators_caseless {op : String} (known : op ∈ operators) :
    ∀ d ∈ op.toList, d.isAlpha = false ∧ isStop d = false := by
  have all : operators.all fun op => op.toList.all fun d => !d.isAlpha && !isStop d := by decide
  simpa using List.all_eq_true.mp (List.all_eq_true.mp all op known)

/-- Of the operators that begin a text followed by an echo, none is new. -/
theorem operator_echo {op : String} {symbol : Text} (known : op ∈ operators) (echo : Echo rest r)
    (starts : op.toList.isPrefixOf (symbol ++ r)) :
    op.toList.isPrefixOf (symbol ++ rest) := by
  rw [List.isPrefixOf_iff_prefix] at starts ⊢
  exact (echo.append_left symbol).prefix_of_caseless (operators_caseless known) starts

theorem operators_length : ∀ op ∈ operators, 1 ≤ op.length := by
  decide

theorem symbolLength_bounds (c : Char) (cs : Text) :
    1 ≤ symbolLength (c :: cs) ∧ symbolLength (c :: cs) ≤ cs.length + 1 := by
  unfold symbolLength
  split
  next op found =>
    constructor
    · exact operators_length op (List.mem_of_find?_eq_some found)
    · have starts := List.find?_some found
      exact (List.isPrefixOf_iff_prefix.mp starts).length_le
  next => simp

/-- The operator that is found at the start of a text is what is taken of it. -/
theorem toList_of_find? {op : String} {symbol : Text}
    (found : operators.find? (fun op => op.toList.isPrefixOf (symbol ++ rest)) = some op)
    (ends : op.length = symbol.length) :
    op.toList = symbol := by
  have starts := List.find?_some found
  refine (List.prefix_of_prefix_length_le (List.isPrefixOf_iff_prefix.mp starts)
    (List.prefix_append symbol rest) ?_).eq_of_length ?_
  · exact Nat.le_of_eq ends
  · exact ends

/-- A symbol is an operator or one character. -/
theorem symbol_cases {symbol : Text} (ends : symbolLength (symbol ++ rest) = symbol.length) :
    (∃ op ∈ operators, op.toList = symbol) ∨ symbol.length = 1 := by
  unfold symbolLength at ends
  split at ends
  next op found => exact .inl ⟨op, List.mem_of_find?_eq_some found, toList_of_find? found ends⟩
  next => exact .inr ends.symm

/-- An operator that ends before a text ends before every echo of it. -/
theorem symbolLength_echo {symbol : Text} (ends : symbolLength (symbol ++ rest) = symbol.length)
    (echo : Echo rest r) :
    symbolLength (symbol ++ r) = symbol.length := by
  unfold symbolLength at ends ⊢
  split at ends
  next op found =>
    obtain ⟨-, before, after, same, shorter⟩ := List.find?_eq_some_iff_append.mp found
    have here := toList_of_find? found ends
    have found' : operators.find? (fun op => op.toList.isPrefixOf (symbol ++ r)) = some op := by
      refine List.find?_eq_some_iff_append.mpr ⟨?_, before, after, same, ?_⟩
      · rw [here]
        exact List.isPrefixOf_iff_prefix.mpr (List.prefix_append symbol r)
      · intro other mem
        have known : other ∈ operators := by simp [same, mem]
        simp only [Bool.not_eq_true', Bool.eq_false_iff] at shorter ⊢
        exact fun starts => shorter other mem (operator_echo known echo starts)
    rw [found']
    exact ends
  next missing =>
    have missing' : operators.find? (fun op => op.toList.isPrefixOf (symbol ++ r)) = none := by
      rw [List.find?_eq_none] at missing ⊢
      exact fun op known starts => missing op known (operator_echo known echo starts)
    rw [missing']
    exact ends

end SqlGrader.Lexer

namespace SqlGrader.Lexeme

open Lexer

variable {c : Char} {cs rest r text : Text} {kind : TokenKind}

/-! ### Tokens -/

theorem quoted_echo {given : TokenKind} {what : Delimited} {q : Char}
    (caseless : q.isAlpha = false) (mark : isStop q = false)
    (reads : quoted given what q cs = .token kind text rest) (echo : Echo rest r) :
    quoted given what q (text.tail ++ r) = .token kind text r := by
  unfold quoted at reads
  split at reads
  next body rest' closes =>
    obtain ⟨rfl, rfl, rfl⟩ := Lexeme.token.inj reads
    simp [quoted, closeQuote?_echo caseless mark closes echo]
  next => cases reads

theorem taken_eq_token {given : TokenKind} {n : Nat} (fits : n ≤ cs.length)
    (reads : taken given n c cs = .token kind text rest) :
    given = kind ∧ ∃ tail, text = c :: tail ∧ cs = tail ++ rest ∧ n = tail.length := by
  obtain ⟨rfl, rfl, rfl⟩ := Lexeme.token.inj reads
  exact ⟨rfl, cs.take n, rfl, (List.take_append_drop n cs).symm, by simp [fits]⟩

theorem taken_append (c : Char) (tail r : Text) :
    taken kind tail.length c (tail ++ r) = .token kind (c :: tail) r := by
  simp [taken]

theorem startsNumber_of_isNameStart (start : isNameStart c) (cs : Text) :
    startsNumber c cs = false := by
  have noDigit : c.isDigit = false := by
    by_contra digit
    rw [isNameStart_of_digit (Bool.not_eq_false _ ▸ digit)] at start
    cases start
  have noPoint : (c == '.') = false := by
    rw [beq_eq_false_iff_ne]
    rintro rfl
    exact absurd start (by decide)
  simp [startsNumber, noDigit, noPoint]

theorem plain_number {tail : Text} (starts : startsNumber c (tail ++ r))
    (len : numberLength false 0 (c :: (tail ++ r)) = tail.length + 1) :
    plain c (tail ++ r) = .token .number (c :: tail) r := by
  rw [plain, if_pos starts, len, Nat.add_sub_cancel]
  exact taken_append c tail r

/-- A word is read up to the first character that does not go on with it. -/
theorem plain_word {tail : Text} (start : isNameStart c) (parts : ∀ d ∈ tail, isNamePart d)
    (ends : ¬ r.head?.any isNamePart) :
    plain c (tail ++ r) = .token .word (c :: tail) r := by
  obtain ⟨front, left⟩ := Text.takeWhile_append parts ends
  rw [plain, if_neg (by simp [startsNumber_of_isNameStart start]), if_pos start, front, left]

theorem plain_symbol {tail : Text} (noNumber : startsNumber c (tail ++ r) = false)
    (noWord : ¬ isNameStart c) (len : symbolLength (c :: (tail ++ r)) = tail.length + 1) :
    plain c (tail ++ r) = .token .symbol (c :: tail) r := by
  rw [plain, if_neg (by simp [noNumber]), if_neg noWord, len, Nat.add_sub_cancel]
  exact taken_append c tail r

/-- A plain token is a number, a word or a symbol, and ends where these end. -/
theorem plain_cases (reads : plain c cs = .token kind text rest) :
    ∃ tail, text = c :: tail ∧ cs = tail ++ rest ∧
      ((kind = .number ∧ startsNumber c (tail ++ rest) ∧ (c = '.' → tail ≠ []) ∧
          numberLength false 0 (c :: (tail ++ rest)) = tail.length + 1) ∨
        (kind = .word ∧ isNameStart c ∧ (∀ d ∈ tail, isNamePart d) ∧
          ¬ rest.head?.any isNamePart) ∨
        (kind = .symbol ∧ startsNumber c (tail ++ rest) = false ∧ ¬ isNameStart c ∧
          symbolLength (c :: (tail ++ rest)) = tail.length + 1)) := by
  unfold plain at reads
  split at reads
  next starts =>
    obtain ⟨n, len, point⟩ := numberLength_of_startsNumber starts
    have fits := numberLength_le false 0 (c :: cs)
    rw [len, Nat.add_sub_cancel] at reads
    rw [len] at fits
    obtain ⟨rfl, tail, rfl, rfl, rfl⟩ := taken_eq_token (Nat.le_of_succ_le_succ fits) reads
    have behind := fun dot => List.ne_nil_of_length_pos (point dot)
    exact ⟨tail, rfl, rfl, .inl ⟨rfl, starts, behind, len⟩⟩
  next starts =>
    rw [Bool.not_eq_true] at starts
    split at reads
    next word =>
      obtain ⟨rfl, rfl, rfl⟩ := Lexeme.token.inj reads
      exact ⟨_, rfl, (List.takeWhile_append_dropWhile ..).symm, .inr (.inl ⟨rfl, word,
        List.all_eq_true.mp List.all_takeWhile, Text.not_head?_dropWhile isNamePart cs⟩)⟩
    next noWord =>
      obtain ⟨low, high⟩ := symbolLength_bounds c cs
      have fits : symbolLength (c :: cs) - 1 ≤ cs.length := Nat.sub_le_of_le_add high
      obtain ⟨rfl, tail, rfl, rfl, len⟩ := taken_eq_token fits reads
      exact ⟨tail, rfl, rfl, .inr (.inr ⟨rfl, starts, noWord, by omega⟩)⟩

theorem startsNumber_echo {tail : Text} (echo : Echo rest r)
    (other : startsNumber c (tail ++ rest) = false) :
    startsNumber c (tail ++ r) = false := by
  simp only [startsNumber, Bool.or_eq_false_iff, Bool.and_eq_false_iff] at other ⊢
  refine ⟨other.1, other.2.imp_right fun noDigit => ?_⟩
  rw [Bool.eq_false_iff] at noDigit ⊢
  exact fun here => noDigit ((echo.append_left tail).head_of_class isDigit_toUpper (by decide) here)

theorem plain_echo (reads : plain c cs = .token kind text rest) (echo : Echo rest r) :
    plain c (text.tail ++ r) = .token kind text r := by
  obtain ⟨tail, rfl, rfl, number | word | symbol⟩ := plain_cases reads
  · obtain ⟨rfl, starts, point, len⟩ := number
    have len' : numberLength false 0 (c :: tail ++ r) = (c :: tail).length :=
      numberLength_echo len (Nat.zero_le _) echo
    refine plain_number ?_ len'
    simp only [startsNumber, Bool.or_eq_true, Bool.and_eq_true, beq_iff_eq] at starts ⊢
    refine starts.imp_right fun ⟨dot, digit⟩ => ⟨dot, ?_⟩
    obtain ⟨d, ds, rfl⟩ := List.exists_cons_of_ne_nil (point dot)
    exact digit
  · obtain ⟨rfl, start, parts, ends⟩ := word
    refine plain_word start parts fun here => ends ?_
    exact echo.head_of_class isNamePart_toUpper (by decide) here
  · obtain ⟨rfl, noNumber, noWord, len⟩ := symbol
    have len' : symbolLength (c :: tail ++ r) = (c :: tail).length := symbolLength_echo len echo
    exact plain_symbol (startsNumber_echo echo noNumber) noWord len'

/-- The characters that gaps, comments, quoted tokens and marks start with. -/
def unplain : Text := [' ', '\t', '\n', '\x0c', '\r', '-', '/', '\'', '"', '(', ')', ',']

theorem read_eq_plain {p : Char → Bool} (other : unplain.all (!p ·)) (here : p c) (cs : Text) :
    read c cs = plain c cs := by
  have apart : ∀ d ∈ unplain, c ≠ d := by
    rintro d mem rfl
    simpa [here] using List.all_eq_true.mp other c mem
  simp only [unplain, List.forall_mem_cons] at apart
  simp [read, isGapChar, apart]

/-- What starts with the first character of a word is no gap and no mark. -/
theorem read_of_isNameStart (start : isNameStart c) (cs : Text) : read c cs = plain c cs :=
  read_eq_plain (by decide) start cs

theorem read_of_isNamePart (part : isNamePart c) (cs : Text) : read c cs = plain c cs :=
  read_eq_plain (by decide) part cs

theorem isNameStart_of_read (reads : read c cs = .token .word text rest) : isNameStart c := by
  unfold read lineComment blockComment quoted plain taken at reads
  repeat' split at reads
  all_goals first | assumption | cases reads

/-- A word starts like a name and goes as far as the characters of names do. -/
theorem read_eq_word {tail : Text} :
    read c (tail ++ rest) = .token .word (c :: tail) rest ↔
      isNameStart c ∧ (∀ d ∈ tail, isNamePart d) ∧ ¬ rest.head?.any isNamePart := by
  constructor
  · intro reads
    have start := isNameStart_of_read reads
    rw [read_of_isNameStart start, plain, if_neg (by simp [startsNumber_of_isNameStart start]),
      if_pos start] at reads
    obtain ⟨-, parts, after⟩ := Lexeme.token.inj reads
    refine ⟨start, ?_, ?_⟩
    · rw [← (List.cons.inj parts).2]
      exact List.all_eq_true.mp List.all_takeWhile
    · rw [← after]
      exact Text.not_head?_dropWhile isNamePart _
  · rintro ⟨start, parts, ends⟩
    rw [read_of_isNameStart start, plain_word start parts ends]

/-- A mark of one character is a token whatever comes next. -/
theorem mark_echo {d : Char} {given : TokenKind} {other other' : Lexeme}
    (reads : (if c = d then .token given [c] cs else other) = .token kind text rest)
    (otherwise : other = .token kind text rest → other' = .token kind text r) :
    (if c = d then .token given [c] (text.tail ++ r) else other') = .token kind text r := by
  split at reads
  next here =>
    obtain ⟨rfl, rfl, rfl⟩ := Lexeme.token.inj reads
    rw [if_pos here]
    rfl
  next elsewhere =>
    rw [if_neg elsewhere]
    exact otherwise reads

/-- A token that is read before a text is read before every echo of it. -/
theorem read_echo (reads : read c cs = .token kind text rest) (echo : Echo rest r) :
    read c (text.tail ++ r) = .token kind text r := by
  have noMark : ∀ {tail : Text} {d e : Char}, e.isAlpha = false → isStop e = false →
      ¬ (c = d && (tail ++ rest).head? == some e) → ¬ (c = d && (tail ++ r).head? == some e) := by
    intro tail d e caseless mark other here
    simp only [Bool.and_eq_true, decide_eq_true_eq, beq_iff_eq] at other here
    exact other ⟨here.1, (echo.append_left tail).head_of_caseless caseless mark here.2⟩
  have whole : cs = text.tail ++ rest := by
    have parts : (read c cs).parts? = some (text, rest) := by rw [reads]; rfl
    obtain ⟨same, nonempty⟩ := read_parts parts
    obtain ⟨d, tail, rfl⟩ := List.exists_cons_of_ne_nil nonempty
    exact (List.cons.inj same).2
  unfold read at reads ⊢
  split at reads
  next => cases reads
  next noGap =>
    split at reads
    next =>
      unfold lineComment at reads
      split at reads <;> cases reads
    next noLine =>
      split at reads
      next =>
        unfold blockComment at reads
        split at reads <;> cases reads
      next noBlock =>
        rw [whole] at noLine noBlock
        rw [if_neg noGap, if_neg (noMark (by decide) (by decide) noLine),
          if_neg (noMark (by decide) (by decide) noBlock)]
        by_cases single : c = '\''
        · subst single
          rw [if_pos rfl] at reads ⊢
          exact quoted_echo (by decide) (by decide) reads echo
        rw [if_neg single] at reads ⊢
        by_cases double : c = '"'
        · subst double
          rw [if_pos rfl] at reads ⊢
          exact quoted_echo (by decide) (by decide) reads echo
        rw [if_neg double] at reads ⊢
        refine mark_echo reads fun reads => mark_echo reads fun reads => ?_
        refine mark_echo reads fun reads => ?_
        exact plain_echo reads echo

end SqlGrader.Lexeme
