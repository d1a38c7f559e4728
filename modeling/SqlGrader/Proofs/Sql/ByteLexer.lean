import SqlGrader.Proofs.Sql.TokenText
import SqlGrader.Proofs.Text.Bytes
import SqlGrader.Proofs.Text.Cuts
import SqlGrader.Sql.ByteLexer
/-!
# Bytes are read like characters

A statement is cut where a character starts. Quotes, white space, numbers and operators are ASCII,
so where they are found among the bytes they are characters. So reading by byte offset comes to the
same tokens as reading by character, and to the same offsets of what is left open.
-/

namespace SqlGrader.ByteLexer

open Text Lexer

variable {b : UInt8} {bs : List UInt8} {c q : Char} {cs t before rest : Text} {start : Nat}

/-! ### Classes of characters outside of ASCII -/

theorem isDigit_outside (c : Char) (high : 128 ≤ c.toNat) : c.isDigit = false := by
  rw [Bool.eq_false_iff, Ne, isDigit_iff]
  omega

theorem isNameStart_outside (c : Char) (high : 128 ≤ c.toNat) : isNameStart c = true := by
  simp [isNameStart, high]

theorem beq_outside {d : Char} (ascii : d.toNat < 128) (c : Char) (high : 128 ≤ c.toNat) :
    (c == d) = false := by
  rw [beq_eq_false_iff_ne]
  rintro rfl
  omega

theorem isGapChar_outside (c : Char) (high : 128 ≤ c.toNat) : isGapChar c = false := by
  simp only [isGapChar, Bool.or_eq_false_iff]
  refine ⟨⟨⟨⟨?_, ?_⟩, ?_⟩, ?_⟩, ?_⟩
  all_goals exact beq_outside (by decide) c high

theorem isSign_outside (c : Char) (high : 128 ≤ c.toNat) : (c == '+' || c == '-') = false := by
  rw [beq_outside (by decide) c high, beq_outside (by decide) c high]
  rfl

theorem isDigit_eq (stands : StandsFor b c) : isDigit b = c.isDigit :=
  stands.test isDigit_outside

/-! ### Quotes -/

theorem quotedLength?_ne (other : .ofUInt8 b ≠ q) (bs : List UInt8) :
    quotedLength? q (b :: bs) = (quotedLength? q bs).map (· + 1) := by
  cases bs with
  | nil => simp [quotedLength?, other]
  | cons d bs => simp [quotedLength?, other]

theorem quotedLength?_append {front : List UInt8} (other : ∀ b ∈ front, .ofUInt8 b ≠ q) :
    quotedLength? q (front ++ bs) = (quotedLength? q bs).map (· + front.length) := by
  induction front with
  | nil => simp
  | cons b front ih =>
      obtain ⟨here, later⟩ := List.forall_mem_cons.1 other
      rw [List.cons_append, quotedLength?_ne here, ih later, Option.map_map]
      rfl

theorem quotedLength?_bytes_cons (ascii : q.toNat < 128) (other : c ≠ q) (cs : Text) :
    quotedLength? q (bytes (c :: cs)) = (quotedLength? q cs.bytes).map (c.utf8Size + ·) := by
  have free : ∀ b ∈ String.utf8EncodeChar c, .ofUInt8 b ≠ q := by
    intro b mem here
    exact other (((standsFor_utf8EncodeChar mem).eq_iff ascii).1 here)
  rw [bytes_cons, quotedLength?_append free, String.length_utf8EncodeChar]
  simp only [Nat.add_comm]

/-- A quote is closed at the byte with which it is closed among the characters. -/
theorem quotedLength?_bytes (ascii : q.toNat < 128) (t : Text) :
    quotedLength? q t.bytes = (closeQuote? q t).map fun p => p.1.utf8Length := by
  obtain ⟨quote, single, same⟩ := utf8EncodeChar_of_ascii ascii
  have size := utf8Size_of_ascii ascii
  fun_induction closeQuote? q t with
  | case1 => rfl
  | case2 => simp [bytes, single, quotedLength?, same, utf8Length, size]
  | case3 c other =>
      rw [quotedLength?_bytes_cons ascii other]
      rfl
  | case4 cs ih =>
      simp only [bytes_cons, single, List.singleton_append, quotedLength?, same, if_true, ih,
        Option.map_map]
      refine congrArg (Option.map · _) (funext fun p => ?_)
      simp only [Function.comp_apply, utf8Length, size]
      omega
  | case5 d cs other =>
      obtain ⟨b, bs, first⟩ := exists_firstByte d cs
      have other' : ¬ .ofUInt8 b = q := mt (first.stands.eq_iff ascii).1 other
      rw [bytes_cons, single, first.bytes_eq]
      simp [quotedLength?, same, other', utf8Length, size]
  | case6 c d cs other ih =>
      rw [quotedLength?_bytes_cons ascii other, ih, Option.map_map, Option.map_map]
      rfl

/-! ### Numbers -/

theorem any_isDigit_bytes (t : Text) : t.bytes.head?.any isDigit = t.head?.any Char.isDigit :=
  any_head?_bytes isDigit_outside t

theorem ascii_of_isSign {s : Char} (sign : s == '+' || s == '-') :
    s.toNat < 128 ∧ s.isDigit = false := by
  have either : s = '+' ∨ s = '-' := by simpa using sign
  rcases either with rfl | rfl <;> decide

theorem bytes_cons_of_ascii (ascii : c.toNat < 128) (cs : Text) :
    ∃ b, bytes (c :: cs) = b :: bytes cs ∧ .ofUInt8 b = c := by
  obtain ⟨b, single, same⟩ := utf8EncodeChar_of_ascii ascii
  exact ⟨b, by rw [bytes_cons, single, List.singleton_append], same⟩

/-- An exponent goes on with a sign that comes before a digit, or with a digit. -/
theorem exponentMark?_eq_signLength? (letter : c = 'e' ∨ c = 'E') (cs : Text) :
    exponentMark? (c :: cs) = (signLength? cs.bytes).map (· + 1) := by
  have isLetter : (c != 'e' && c != 'E') = false := by
    rcases letter with rfl | rfl <;> rfl
  have isLetter' : (c == 'e' || c == 'E') = true := by
    rcases letter with rfl | rfl <;> rfl
  rw [signLength?, any_head?_bytes isSign_outside]
  cases cs with
  | nil => simp [exponentMark?, bytes]
  | cons s more =>
      by_cases sign : (s == '+' || s == '-')
      · obtain ⟨ascii, noDigit⟩ := ascii_of_isSign sign
        obtain ⟨b, single, -⟩ := bytes_cons_of_ascii ascii more
        simp only [List.head?_cons, Option.any_some, sign, if_true, single, List.drop_succ_cons,
          List.drop_zero, any_isDigit_bytes]
        cases more with
        | nil => simp [exponentMark?, isLetter', noDigit]
        | cons d ds =>
            by_cases digit : d.isDigit <;> simp [exponentMark?, isLetter, sign, noDigit, digit]
      · simp only [List.head?_cons, Option.any_some, sign, Bool.false_eq_true, if_false,
          List.drop_zero, any_isDigit_bytes]
        cases more <;> by_cases digit : s.isDigit <;>
          simp [exponentMark?, isLetter, isLetter', sign, digit]

/-- A sign is a character. -/
theorem drop_sign {sign : Nat} (found : signLength? cs.bytes = some sign) (pointSeen : Bool) :
    cs.bytes.drop sign = bytes (cs.drop sign) ∧
      Lexer.numberLength pointSeen sign cs =
        Lexer.numberLength pointSeen 0 (cs.drop sign) + sign := by
  rw [signLength?, any_head?_bytes isSign_outside] at found
  have length := Option.some.inj (Option.ite_none_right_eq_some.1 found).2
  by_cases signed : cs.head?.any fun s => s == '+' || s == '-'
  · rw [if_pos signed] at length
    subst length
    obtain ⟨s, head, isSign⟩ := (Option.any_eq_true ..).1 signed
    obtain ⟨more, rfl⟩ := List.head?_eq_some_iff.1 head
    obtain ⟨b, single, -⟩ := bytes_cons_of_ascii (ascii_of_isSign isSign).1 more
    exact ⟨by rw [single]; rfl, rfl⟩
  · rw [if_neg signed] at length
    subst length
    exact ⟨rfl, rfl⟩

/-- A number has as many bytes as characters. The induction is on the length of the text. -/
theorem numberLength_bytes (pointSeen : Bool) :
    (t : Text) → numberLength pointSeen t.bytes = Lexer.numberLength pointSeen 0 t
  | [] => by rw [Lexer.numberLength, bytes, List.flatMap_nil, numberLength]
  | c :: cs => by
      obtain ⟨b, bs, first⟩ := exists_firstByte c cs
      have point := first.stands.eq_iff (d := '.') (by decide)
      have small := first.stands.eq_iff (d := 'e') (by decide)
      have capital := first.stands.eq_iff (d := 'E') (by decide)
      rw [first.bytes_eq, numberLength, Lexer.numberLength, isDigit_eq first.stands]
      by_cases digit : c.isDigit
      · have ascii := (isDigit_iff.1 digit).2
        rw [if_pos digit, if_pos digit, first.rest (by omega), numberLength_bytes pointSeen cs]
      rw [if_neg digit, if_neg digit]
      by_cases dot : c = '.' && !pointSeen
      · have here : c = '.' := by simpa using (Bool.and_eq_true_iff.1 dot).1
        rw [if_pos dot, if_pos (by simpa [point] using dot),
          first.rest (by rw [here]; decide), numberLength_bytes true cs]
      rw [if_neg dot, if_neg (by simpa [point] using dot)]
      by_cases letter : c = 'e' ∨ c = 'E'
      · rw [if_pos (by simpa [small, capital] using letter), exponentMark?_eq_signLength? letter,
          first.rest (by rcases letter with rfl | rfl <;> decide)]
        cases found : signLength? (bytes cs) with
        | none => rfl
        | some sign =>
            obtain ⟨after, length⟩ := drop_sign found true
            have here := numberLength_bytes true (cs.drop sign)
            simp only [Option.map_some, Nat.add_sub_cancel, after, here, length]
      · have none : exponentMark? (c :: cs) = none := by
          refine Option.eq_none_iff_forall_not_mem.2 fun n mark => letter ?_
          obtain ⟨e, s, more, same, letter, -⟩ := exponentMark?_eq_some.1 mark
          rwa [(List.cons.inj same).1]
        rw [if_neg (by simpa [small, capital] using letter), none]
termination_by t => t.length
decreasing_by all_goals simp +arith

/-! ### Cuts -/

theorem textFrom_append (before rest : Text) :
    textFrom (before ++ rest) before.utf8Length = .ok rest := by
  rw [textFrom, splitAtByte?_append]

theorem textBetween_append (before text rest : Text) :
    textBetween (before ++ (text ++ rest)) before.utf8Length (before.utf8Length + text.utf8Length) =
      .ok text := by
  rw [textBetween, textFrom_append, Nat.add_sub_cancel_left]
  simp only [bind, Except.bind, splitAtByte?_append]

/-! ### One step -/

/-- The step over what is read at an offset. -/
def stepOver (start : Nat) : Lexeme → Except Stop Step
  | .gap text _ => .ok (.gap (start + text.utf8Length))
  | .token kind text _ => .ok (.token kind (start + text.utf8Length))
  | .unclosed what => .error (.unclosed ⟨what, start⟩)

theorem quoted_eq (ascii : q.toNat < 128) (kind : TokenKind) (what : Delimited)
    (before cs : Text) :
    quoted (before ++ q :: cs) kind what q before.utf8Length =
      stepOver before.utf8Length (Lexeme.quoted kind what q cs) := by
  have whole : before ++ q :: cs = (before ++ [q]) ++ cs := by simp
  have offset : before.utf8Length + 1 = utf8Length (before ++ [q]) := by
    simp [utf8Length_append, utf8Length, utf8Size_of_ascii ascii]
  rw [quoted, Lexeme.quoted, offset, whole, drop_bytes, quotedLength?_bytes ascii]
  cases closeQuote? q cs with
  | none => rfl
  | some p => simp [stepOver, utf8Length, utf8Length_append, Nat.add_assoc]

theorem ascii_of_isNumberChar (number : isNumberChar c) : c.toNat < 128 := by
  simp only [isNumberChar, Bool.or_eq_true, beq_iff_eq] at number
  rcases number with ((((digit | rfl) | rfl) | rfl) | rfl) | rfl
  · exact Nat.lt_of_le_of_lt (isDigit_iff.1 digit).2 (by decide)
  all_goals decide

theorem symbolLength_eq (symbol : Text) (ascii : ∀ c ∈ symbol.head?, c.toNat < 128)
    (ends : Lexer.symbolLength (symbol ++ rest) = symbol.length) :
    symbolLength (symbol ++ rest) = symbol.utf8Length := by
  cases found : operators.find? fun op => op.toList.isPrefixOf (symbol ++ rest) with
  | some op =>
      rw [Lexer.symbolLength, found] at ends
      rw [symbolLength, found]
      exact congrArg utf8Length (toList_of_find? found ends)
  | none =>
      rw [Lexer.symbolLength, found] at ends
      rw [symbolLength, found]
      obtain ⟨c, rfl⟩ := List.length_eq_one_iff.1 ends.symm
      simp [utf8Length, utf8Size_of_ascii (ascii c rfl)]

theorem startsNumber_eq (first : FirstByte b bs c cs) (before : Text) :
    (isDigit b || (Char.ofUInt8 b == '.' &&
        (before ++ c :: cs).bytes[before.utf8Length + 1]?.any isDigit)) = startsNumber c cs := by
  have next : (before ++ c :: cs).bytes[before.utf8Length + 1]? = bs.head? := by
    rw [← List.getElem?_drop, drop_bytes, first.bytes_eq, List.getElem?_cons_succ]
    exact List.head?_eq_getElem?.symm
  have point : (Char.ofUInt8 b == '.') = (c == '.') := first.stands.test (beq_outside (by decide))
  rw [next, point, isDigit_eq first.stands, startsNumber]
  -- The next byte counts only after a point, and there it begins the next character.
  by_cases dot : c = '.'
  · subst dot
    rw [first.rest (by decide), any_isDigit_bytes]
  · rw [beq_eq_false_iff_ne.2 dot, Bool.false_and, Bool.false_and]

theorem plain_isToken (c : Char) (cs : Text) :
    ∃ kind text rest, Lexeme.plain c cs = .token kind text rest := by
  unfold Lexeme.plain Lexeme.taken
  repeat' split
  all_goals exact ⟨_, _, _, rfl⟩

theorem plain_eq (first : FirstByte b bs c cs) (before : Text) :
    plain (before ++ c :: cs) before.utf8Length b =
      stepOver before.utf8Length (Lexeme.plain c cs) := by
  obtain ⟨kind, text, rest, reads⟩ := plain_isToken c cs
  have starts := startsNumber_eq first before
  rw [reads, plain, starts]
  obtain ⟨tail, rfl, rfl, number | word | symbol⟩ := Lexeme.plain_cases reads
  · obtain ⟨rfl, isNumber, -, length⟩ := number
    have chars : ∀ d ∈ c :: tail, isNumberChar d := isNumberChar_of_numberLength length (.inl rfl)
    have ascii : ∀ d ∈ c :: tail, d.toNat < 128 := fun d mem => ascii_of_isNumberChar (chars d mem)
    rw [if_pos isNumber, drop_bytes, numberLength_bytes, length, stepOver,
      utf8Length_of_ascii ascii]
    rfl
  · obtain ⟨rfl, isName, parts, ends⟩ := word
    have isName' : isNameStart (.ofUInt8 b) := (first.stands.test isNameStart_outside).trans isName
    have taken := (takeWhile_append parts ends).1
    rw [Lexeme.startsNumber_of_isNameStart isName, if_neg (by simp), textFrom_append]
    simp only [bind, Except.bind, isName', if_true, wordLength, taken]
    rfl
  · obtain ⟨rfl, noNumber, noName, length⟩ := symbol
    have noName' : ¬ isNameStart (.ofUInt8 b) := by rwa [first.stands.test isNameStart_outside]
    have ascii : c.toNat < 128 := Nat.lt_of_not_ge fun high => noName (isNameStart_outside c high)
    have length' := symbolLength_eq (c :: tail) (by simpa using ascii) length
    rw [noNumber, if_neg (by simp), textFrom_append]
    simp only [bind, Except.bind, noName', Bool.false_eq_true, if_false]
    exact congrArg (fun n => Except.ok (Step.token .symbol (before.utf8Length + n))) length'

theorem isPrefixOf_pair (d e c : Char) (cs : Text) :
    [d, e].isPrefixOf (c :: cs) = (c = d && cs.head? == some e) := by
  cases cs <;> simp [List.isPrefixOf, eq_comm, Bool.beq_eq_decide_eq]

/-- A mark of two characters stands at the start of a text. -/
theorem exists_of_pair {d e : Char} (opens : c = d && cs.head? == some e) :
    c = d ∧ ∃ ds, cs = e :: ds := by
  simp only [Bool.and_eq_true, decide_eq_true_eq, beq_iff_eq] at opens
  exact ⟨opens.1, List.head?_eq_some_iff.1 opens.2⟩

theorem lineComment_eq (before cs : Text) :
    .ok (lineComment (before ++ '-' :: '-' :: cs) before.utf8Length ('-' :: '-' :: cs)) =
      stepOver before.utf8Length (Lexeme.lineComment cs) := by
  have passed : cutAt? '\n' ('-' :: '-' :: cs) =
      (cutAt? '\n' cs).map fun p => ('-' :: '-' :: p.1, p.2) :=
    cutAt?_append (s := ['-', '-']) (by decide) cs
  have size : '-'.utf8Size = 1 ∧ '\n'.utf8Size = 1 := by decide
  rw [lineComment, Lexeme.lineComment, passed]
  cases cutAt? '\n' cs with
  | none => simp [stepOver, length_bytes, utf8Length_append]
  | some p => simp [stepOver, utf8Length, utf8Length_append, size, Nat.add_assoc]

theorem blockComment_eq (before cs : Text) :
    blockComment (before ++ '/' :: '*' :: cs) before.utf8Length =
      stepOver before.utf8Length (Lexeme.blockComment cs) := by
  have whole : before ++ '/' :: '*' :: cs = (before ++ ['/', '*']) ++ cs := by simp
  have size : '/'.utf8Size = 1 ∧ '*'.utf8Size = 1 := by decide
  have offset : before.utf8Length + 2 = utf8Length (before ++ ['/', '*']) := by
    simp [utf8Length_append, utf8Length, size]
  rw [blockComment, Lexeme.blockComment, offset, whole, textFrom_append]
  simp only [bind, Except.bind]
  cases cut? ['*', '/'] cs with
  | none => rfl
  | some p =>
      simp only [stepOver, utf8Length, List.cons_append, utf8Length_append, size]
      refine congrArg (Except.ok ∘ Step.gap) ?_
      omega

theorem mark_eq (ascii : c.toNat < 128) (kind : TokenKind) (start : Nat) (cs : Text) :
    .ok (.token kind (start + 1)) = stepOver start (.token kind [c] cs) := by
  rw [stepOver, utf8Length, utf8Size_of_ascii ascii]
  rfl

/-- An ASCII character is told by its byte. -/
theorem branch_eq {mark : Char} {taken other : Except Stop Step} {taken' other' : Lexeme}
    (stands : StandsFor b c) (ascii : mark.toNat < 128)
    (here : c = mark → taken = stepOver start taken') (otherwise : other = stepOver start other') :
    (if .ofUInt8 b = mark then taken else other) =
      stepOver start (if c = mark then taken' else other') := by
  by_cases same : c = mark
  · rw [if_pos ((stands.eq_iff ascii).2 same), if_pos same, here same]
  · rw [if_neg (mt (stands.eq_iff ascii).1 same), if_neg same, otherwise]

/-- A step by bytes goes over what is read by characters. -/
theorem step_eq (first : FirstByte b bs c cs) (before : Text) :
    step (before ++ c :: cs) before.utf8Length b =
      stepOver before.utf8Length (Lexeme.read c cs) := by
  have stands := first.stands
  rw [step, Lexeme.read, stands.test isGapChar_outside]
  by_cases gap : isGapChar c
  · have ascii : c.toNat < 128 := by
      refine Nat.lt_of_not_ge fun high => ?_
      rw [isGapChar_outside c high] at gap
      cases gap
    rw [if_pos gap, if_pos gap, stepOver, utf8Length, utf8Size_of_ascii ascii]
    rfl
  rw [if_neg gap, if_neg gap, textFrom_append]
  simp only [bind, Except.bind, isPrefixOf_pair]
  by_cases line : c = '-' && cs.head? == some '-'
  · rw [if_pos line, if_pos line]
    obtain ⟨rfl, ds, rfl⟩ := exists_of_pair line
    exact lineComment_eq before ds
  rw [if_neg line, if_neg line]
  by_cases block : c = '/' && cs.head? == some '*'
  · rw [if_pos block, if_pos block]
    obtain ⟨rfl, ds, rfl⟩ := exists_of_pair block
    exact blockComment_eq before ds
  rw [if_neg block, if_neg block]
  refine branch_eq stands (by decide) ?string ?_
  case string =>
    rintro rfl
    exact quoted_eq (by decide) .stringLiteral .string before cs
  refine branch_eq stands (by decide) ?name ?_
  case name =>
    rintro rfl
    exact quoted_eq (by decide) .quotedName .quotedName before cs
  refine branch_eq stands (by decide) (fun same => mark_eq (by rw [same]; decide) _ _ cs) ?_
  refine branch_eq stands (by decide) (fun same => mark_eq (by rw [same]; decide) _ _ cs) ?_
  refine branch_eq stands (by decide) (fun same => mark_eq (by rw [same]; decide) _ _ cs) ?_
  exact plain_eq first before

/-! ### All steps -/

theorem tokensFrom_step {sql : Text} (spaced : Bool) (here : sql.bytes[start]? = some b) :
    tokensFrom sql spaced start =
      match step sql start b with
      | .error stop => .error stop
      | .ok (.gap stop) => tokensFrom sql true stop
      | .ok (.token kind stop) =>
        (textBetween sql start stop).bind fun text =>
          (tokensFrom sql false stop).map (⟨kind, text, spaced⟩ :: ·) := by
  rw [tokensFrom]
  split
  next missing => cases missing.symm.trans here
  next b' found =>
    obtain rfl := Option.some.inj (found.symm.trans here)
    split
    next failed => rw [failed]
    next taken => rw [taken]
    next taken => rw [taken]

/-- What a text ends with is read step by step, by bytes as by characters. -/
theorem step_at {sql : Text} (whole : sql = before ++ c :: cs) :
    ∃ b, sql.bytes[before.utf8Length]? = some b ∧
      step sql before.utf8Length b = stepOver before.utf8Length (Lexeme.read c cs) := by
  obtain ⟨b, bs, first⟩ := exists_firstByte c cs
  subst whole
  refine ⟨b, ?_, step_eq first before⟩
  rw [← Nat.add_zero before.utf8Length, ← List.getElem?_drop, drop_bytes, first.bytes_eq]
  rfl

/-- From where a text ends the same tokens are read by bytes and by characters. The induction is on
the steps through the characters. -/
theorem tokensFrom_eq {sql : Text} (spaced : Bool) (whole : sql = before ++ t) :
    tokensFrom sql spaced before.utf8Length =
      (scan spaced t).mapError fun e => .unclosed ⟨e.1, sql.utf8Length - e.2.utf8Length⟩ := by
  fun_induction scan spaced t generalizing before with
  | case1 spaced =>
      have ended : sql.bytes[before.utf8Length]? = none := by
        rw [whole, List.append_nil, ← length_bytes]
        exact List.getElem?_eq_none_iff.2 (Nat.le_refl _)
      rw [tokensFrom]
      split
      next => rfl
      next here => cases ended.symm.trans here
  | case2 spaced c cs gap rest found ih =>
      obtain ⟨b, here, taken⟩ := step_at whole
      have parts : c :: cs = gap ++ rest := (Lexeme.read_parts (by rw [found]; rfl)).1
      have whole' : sql = (before ++ gap) ++ rest := by rw [whole, parts, List.append_assoc]
      rw [tokensFrom_step spaced here, taken, found, ← ih whole', utf8Length_append]
      rfl
  | case3 spaced c cs kind text rest found ih =>
      obtain ⟨b, here, taken⟩ := step_at whole
      have parts : c :: cs = text ++ rest := (Lexeme.read_parts (by rw [found]; rfl)).1
      have whole' : sql = (before ++ text) ++ rest := by rw [whole, parts, List.append_assoc]
      have cut := textBetween_append before text rest
      rw [← List.append_assoc, ← whole'] at cut
      have ih' := ih whole'
      rw [utf8Length_append] at ih'
      rw [tokensFrom_step spaced here, taken, found]
      simp only [stepOver, cut, ih', Except.bind]
      cases scan false rest <;> rfl
  | case4 spaced c cs what found =>
      obtain ⟨b, here, taken⟩ := step_at whole
      have offset : sql.utf8Length - utf8Length (c :: cs) = before.utf8Length := by
        rw [whole, utf8Length_append, Nat.add_sub_cancel]
      rw [tokensFrom_step spaced here, taken, found, ← offset]
      rfl

/-- Reading by byte offset comes to the tokens that reading by character comes to, or stops at the
same thing that is left open. It never cuts inside of a character. -/
theorem tokenize_eq (sql : Text) : tokenize sql = (SqlGrader.tokenize sql).mapError .unclosed := by
  rw [tokenize, SqlGrader.tokenize]
  have all := tokensFrom_eq false (List.nil_append sql).symm
  rw [utf8Length] at all
  rw [all]
  cases scan false sql <;> rfl

end SqlGrader.ByteLexer
