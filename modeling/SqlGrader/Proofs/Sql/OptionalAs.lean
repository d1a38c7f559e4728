import SqlGrader.Proofs.Sql.Renaming
import SqlGrader.Proofs.Sql.TopLevel
/-!
# Aliases with and without `AS`

The name at the end of a projection item is its alias if `AS` stands before it. Without `AS` it is
the alias if it can stand alone and an expression can end before it. The tokens tell: an expression
ends with a name, a literal, a parenthesis that closes or an `END`. The reserved words that are
literals by themselves, such as `NULL`, end an expression too, but are not among them.
-/

namespace SqlGrader

namespace Keyword

/-- The reserved words that are expressions by themselves. -/
def literals : List String :=
  ["NULL", "TRUE", "FALSE", "CURRENT_DATE", "CURRENT_TIME", "CURRENT_TIMESTAMP"]

end Keyword

namespace Token

variable {t last as x : Token} {ts us : List Token} {w : String} {a b : Text}

/-- The text consists of these tokens, whatever stands between them. White space at the ends of the
text is not looked at. -/
def Spells (a : Text) (ts : List Token) : Prop :=
  (tokenize (Text.trim a)).map (List.map unspaced) = .ok (ts.map unspaced)

instance (a : Text) (ts : List Token) : Decidable (Spells a ts) :=
  inferInstanceAs (Decidable (_ = _))

/-- Whether an expression can end with the token. -/
def MayEnd (t : Token) : Prop :=
  (t.kind = .word ∧ Keyword.isReserved t.text = false) ∨ t.kind = .quotedName ∨
    t.kind = .stringLiteral ∨ t.kind = .number ∨ t.kind = .closeParen ∨ t.isWord "END" ∨
    t.isAnyWord Keyword.literals

instance (t : Token) : Decidable t.MayEnd := inferInstanceAs (Decidable (_ ∨ _))

/-- The expression of a projection item, with the token that it ends with. -/
structure IsExpression (e : List Token) (last : Token) : Prop where
  start : ∀ t ∈ e.head?, ¬ t.isWord "DISTINCT" ∧ ¬ t.isWord "ALL"
  single : NoneOutside Items.isComma 0 e
  ends : e.getLast? = some last
  mayEnd : last.MayEnd

/-! ### A single item -/

/-- A text that does not start with a word keeps it when the word is looked for. -/
theorem afterWord?_eq_none (letters : ∀ c ∈ w.toList, c.isUpper) (nonempty : w.toList ≠ [])
    (read : tokenize a = .ok ts) (other : ∀ t ∈ ts.head?, ¬ t.isWord w) :
    ProjectionItem.afterWord? w a = none := by
  refine Option.eq_none_iff_forall_not_mem.mpr fun rest found => ?_
  unfold ProjectionItem.afterWord? at found
  split at found
  next c cs dropped =>
    split at found
    next blank =>
      obtain ⟨start, rfl, same⟩ := Text.dropStartIgnoringCase?_eq_some.mp dropped
      rw [upper_of_capitals letters] at same
      have isLetter : ∀ d ∈ start, d.isAlpha := fun d mem =>
        Text.isAlpha_of_toUpper (letters _ (same ▸ List.mem_map_of_mem mem))
      match start, isLetter with
      | [], _ => exact absurd same.symm nonempty
      | d :: tail, isLetter =>
        have reads : Lexeme.read d (tail ++ c :: cs) = .token .word (d :: tail) (c :: cs) := by
          refine Lexeme.read_eq_word.mpr ⟨?_, fun e mem => ?_, ?_⟩
          · simp [Lexer.isNameStart, isLetter d (by simp)]
          · exact Lexer.isNamePart_of_isAlpha (isLetter e (by simp [mem]))
          · simp [Lexer.isNamePart_of_isBlank blank]
        have scanned := scan_of_tokenize read
        rw [List.cons_append, scan_of_token reads] at scanned
        obtain ⟨us, -, rfl⟩ := exists_of_map_eq_ok scanned
        exact other _ rfl (by simp [isWord, same])
    next => cases found
  next => cases found

theorem Spells.exists_tokens (spells : Spells a ts) :
    ∃ us, tokenize (Text.trim a) = .ok us ∧ us.map unspaced = ts.map unspaced := by
  unfold Spells at spells
  cases read : tokenize (Text.trim a) with
  | error e =>
      rw [read] at spells
      cases spells
  | ok us =>
      rw [read] at spells
      exact ⟨us, rfl, Except.ok.inj spells⟩

theorem itemOf_of_same (s : Scope) (same : us.map unspaced = ts.map unspaced) :
    itemOf s us = itemOf s ts := by
  have blind (ts : List Token) : itemOf s (ts.map unspaced) = itemOf s ts := by
    rw [itemOf, itemOf, cosmetic_unspaced.splitEnd, cosmetic_unspaced.canonicalTokens]
  rw [← blind us, same, blind]

/-- A text of one item that starts with neither `DISTINCT` nor `ALL` is the item of its tokens. -/
theorem ofProjection_single (s : Scope) (spells : Spells a ts) (nonempty : ts ≠ [])
    (start : ∀ t ∈ ts.head?, ¬ t.isWord "DISTINCT" ∧ ¬ t.isWord "ALL")
    (single : NoneOutside Items.isComma 0 ts) :
    ProjectionItem.ofProjection s a = [itemOf s ts] := by
  obtain ⟨us, read, same⟩ := spells.exists_tokens
  have legible := legible_of_tokenize read
  have nonempty' : us ≠ [] := by
    rintro rfl
    exact nonempty (List.map_eq_nil_iff.mp same.symm)
  have neutral := cosmetic_unspaced.neutral
  have single' : NoneOutside Items.isComma 0 us := by
    rwa [← noneOutside_map neutral neutral.isComma, same, noneOutside_map neutral neutral.isComma]
  have start' : ∀ u ∈ us.head?, ¬ u.isWord "DISTINCT" ∧ ¬ u.isWord "ALL" := by
    intro u head
    obtain ⟨t, first, here⟩ : ∃ t, ts.head? = some t ∧ t.unspaced = u.unspaced := by
      have heads := congrArg List.head? same
      rw [List.head?_map, List.head?_map, Option.mem_def.mp head] at heads
      exact Option.map_eq_some_iff.mp heads.symm
    have other := start t first
    rw [← cosmetic_unspaced.isWord, ← cosmetic_unspaced.isWord t "ALL", here] at other
    exact other
  have item : itemOf s (atStart us) = itemOf s ts :=
    itemOf_of_same s ((map_unspaced_atStart us).trans same)
  rw [ProjectionItem.ofProjection,
    afterWord?_eq_none (by simp) (by decide) read fun u head => (start' u head).1,
    afterWord?_eq_none (by simp) (by decide) read fun u head => (start' u head).2]
  simp only [Option.getD_none, Items.ofText, read, splitTopLevel_of_noneOutside single' nonempty',
    List.map_cons, List.map_nil, item_render legible, item]

/-! ### The alias -/

theorem exists_of_isAnyWord {ws : List String} (word : t.isAnyWord ws) : ∃ w ∈ ws, t.isWord w :=
  List.any_eq_true.mp word

theorem literals_reserved : ∀ w ∈ Keyword.literals, w ∈ Keyword.reserved ∧ w ≠ "END" := by
  decide

/-- Of the tokens that an expression can end with, the literal words are not seen as such. -/
theorem MayEnd.endsExpression (mayEnd : t.MayEnd) :
    Alias.endsExpression t = !t.isAnyWord Keyword.literals := by
  rcases mayEnd with ⟨word, free⟩ | kind | kind | kind | kind | word | literal
  · have none : t.isAnyWord Keyword.literals = false := by
      refine Bool.eq_false_iff.mpr fun literal => ?_
      obtain ⟨w, known, here⟩ := exists_of_isAnyWord literal
      rw [isReserved_of_isWord (literals_reserved w known).1 here] at free
      cases free
    simp [Alias.endsExpression, word, free, none]
  iterate 4
    · rw [isAnyWord_of_kind_ne (by simp [kind])]
      simp [Alias.endsExpression, kind]
  · rw [isAnyWord_eq word]
    simp [Alias.endsExpression, kind_of_isWord word, word, Keyword.literals]
  · obtain ⟨w, known, here⟩ := exists_of_isAnyWord literal
    obtain ⟨reserved, other⟩ := literals_reserved w known
    simp [Alias.endsExpression, kind_of_isWord here, isReserved_of_isWord reserved here,
      isWord_eq here, other, literal]

theorem MayEnd.not_as (mayEnd : t.MayEnd) : t.isWord "AS" = false := by
  refine Bool.eq_false_iff.mpr fun as => ?_
  have ends := mayEnd.endsExpression
  have reserved : Keyword.isReserved t.text = true :=
    isReserved_of_isWord (show "AS" ∈ Keyword.reserved by decide) as
  rw [isAnyWord_eq as] at ends
  simp [Alias.endsExpression, kind_of_isWord as, reserved, isWord_eq as, Keyword.literals] at ends

section

variable {e : List Token} (expression : IsExpression e last)
include expression

theorem splitEnd_as (word : x.kind = .word) (keyword : as.isWord "AS") :
    Alias.splitEnd (e ++ [as, x]) = (e, some (Text.lowercase x.text)) := by
  obtain ⟨front, rfl⟩ := List.getLast?_eq_some_iff.mp expression.ends
  have ends : (front ++ [last] ++ [as, x]).reverse = x :: as :: last :: front.reverse := by simp
  rw [splitEnd_of_reverse ends]
  simp [Alias.isName, Alias.nameOf, word, keyword]

theorem splitEnd_bare (word : x.kind = .word)
    (free : Keyword.isReserved x.text = false) (noFunction : Keyword.isFunction x.text = false) :
    Alias.splitEnd (e ++ [x]) =
      if last.isAnyWord Keyword.literals then (e ++ [x], none)
      else (e, some (Text.lowercase x.text)) := by
  obtain ⟨front, rfl⟩ := List.getLast?_eq_some_iff.mp expression.ends
  have ends : (front ++ [last] ++ [x]).reverse = x :: last :: front.reverse := by simp
  rw [splitEnd_of_reverse ends, expression.mayEnd.not_as, expression.mayEnd.endsExpression]
  cases last.isAnyWord Keyword.literals <;>
    simp [Alias.isName, Alias.nameOf, Alias.standsAlone, word, free, noFunction]

/-- What the tokens after an expression add does not divide it. -/
theorem IsExpression.ofProjection (s : Scope) (us : List Token)
    (words : ∀ u ∈ us, u.kind = .word) (spells : Spells a (e ++ us)) :
    ProjectionItem.ofProjection s a = [itemOf s (e ++ us)] := by
  obtain ⟨front, rfl⟩ := List.getLast?_eq_some_iff.mp expression.ends
  have noComma : ∀ u ∈ us, Items.isComma u = false := fun u mem => by
    simp [Items.isComma, words u mem]
  refine ofProjection_single s spells (by simp) (fun t head => expression.start t ?_)
    (noneOutside_append.mpr ⟨expression.single, noneOutside_of_forall noComma⟩)
  rwa [List.head?_append_of_ne_nil _ (by simp)] at head

end

end Token

namespace ProjectionItem

open Token

/-- An expression with a name after it is the same item with and without `AS` between them, unless
the expression ends with a literal word: then the name is not seen without `AS`. -/
theorem ofProjection_as (s : Scope) (e : List Token) (last as x : Token) (a b : Text)
    (expression : IsExpression e last) (keyword : as.isWord "AS") (word : x.kind = .word)
    (free : Keyword.isReserved x.text = false) (noFunction : Keyword.isFunction x.text = false)
    (withAs : Spells a (e ++ [as, x])) (bare : Spells b (e ++ [x])) :
    ofProjection s a = [⟨s.canonicalTokens false e, some (Text.lowercase x.text)⟩] ∧
      (ofProjection s b = ofProjection s a ↔ ¬ last.isAnyWord Keyword.literals) ∧
      (last.isAnyWord Keyword.literals →
        ofProjection s b = [⟨s.canonicalTokens false (e ++ [x]), none⟩]) := by
  have left := expression.ofProjection s [as, x] (by simp [word, kind_of_isWord keyword]) withAs
  have right := expression.ofProjection s [x] (by simp [word]) bare
  rw [itemOf, splitEnd_as expression word keyword] at left
  rw [itemOf, splitEnd_bare expression word free noFunction] at right
  refine ⟨left, ?_⟩
  rw [left, right]
  cases last.isAnyWord Keyword.literals <;> simp

/-- The call of a function with two arguments. -/
def callTokens : List Token :=
  [⟨.word, ['f'], false⟩, ⟨.openParen, ['('], false⟩, ⟨.word, ['a'], false⟩,
    ⟨.comma, [','], false⟩, ⟨.number, ['1'], true⟩, ⟨.closeParen, [')'], false⟩]

theorem ofProjection_as_call :
    let last : Token := ⟨.closeParen, [')'], false⟩
    let x : Token := ⟨.word, "Total".toList, true⟩
    let a := "f(a, 1)/**/as Total".toList
    let b := " f (a,1) Total".toList
    IsExpression callTokens last ∧ Token.isWord ⟨.word, "as".toList, true⟩ "AS" ∧
      Keyword.isReserved x.text = false ∧ Keyword.isFunction x.text = false ∧
      Spells a (callTokens ++ [⟨.word, "as".toList, true⟩, x]) ∧ Spells b (callTokens ++ [x]) ∧
      ofProjection .empty a =
        [⟨Scope.empty.canonicalTokens false callTokens, some (Text.lowercase x.text)⟩] ∧
      (ofProjection .empty b = ofProjection .empty a ↔ ¬ last.isAnyWord Keyword.literals) ∧
      (last.isAnyWord Keyword.literals →
        ofProjection .empty b =
          [⟨Scope.empty.canonicalTokens false (callTokens ++ [x]), none⟩]) := by
  have expression : IsExpression callTokens ⟨.closeParen, [')'], false⟩ :=
    ⟨by decide, by decide, rfl, by decide⟩
  have withAs : Spells "f(a, 1)/**/as Total".toList
      (callTokens ++ [⟨.word, "as".toList, true⟩, ⟨.word, "Total".toList, true⟩]) := by
    decide +kernel
  have bare : Spells " f (a,1) Total".toList (callTokens ++ [⟨.word, "Total".toList, true⟩]) := by
    decide +kernel
  exact ⟨expression, by decide, by decide, by decide, withAs, bare,
    ofProjection_as .empty callTokens _ _ _ _ _ expression (by decide) rfl (by decide) (by decide)
      withAs bare⟩

/-- The word `NULL` is an expression, but the name after it is not seen as its alias. -/
theorem ofProjection_null :
    ofProjection .empty "NULL AS x".toList = [⟨"NULL".toList, some "x".toList⟩] ∧
      ofProjection .empty "NULL x".toList = [⟨"NULL x".toList, none⟩] := by
  decide +kernel

end ProjectionItem

end SqlGrader
