import SqlGrader.Proofs.Sql.Joins
import SqlGrader.Proofs.Sql.Lossless
import SqlGrader.Proofs.Sql.Wrapped
/-!
# The first condition of a join

The target of a join ends where the first condition starts. Among tokens a
condition starts with an `ON` or a `USING` that has gaps around it, or a
parenthesis after it, and inside of quotes it may start as well. No mark of a
condition goes on after a quote, so whether one starts inside of a quoted token
does not depend on what follows the token.
-/

namespace SqlGrader.Join

open Token Lexer

variable {t u : Token} {ts us : List Token} {a b r : Text} {c : Char}

/-! ### Where a condition starts -/

theorem caseless_of_mark (mark : c = ' ' ∨ c = '(') : c.isAlpha = false := by
  rcases mark with rfl | rfl <;> decide

theorem exists_of_startsCondition {t : Text} (starts : startsCondition t) :
    ∃ w ∈ ["ON", "USING"], ∃ word d rest, t = ' ' :: (word ++ d :: rest) ∧
      Text.upper word = w.toList ∧ (d = ' ' ∨ d = '(') := by
  have marks : ∀ mark ∈ conditionMarks, ∃ w ∈ ["ON", "USING"],
      Text.upper mark.toList = ' ' :: (w.toList ++ [' ']) ∨
        Text.upper mark.toList = ' ' :: (w.toList ++ ['(']) := by decide +kernel
  obtain ⟨mark, known, found⟩ := List.any_eq_true.mp starts
  obtain ⟨rest, found⟩ := Option.isSome_iff_exists.mp found
  obtain ⟨start, rfl, same⟩ := Text.dropStartIgnoringCase?_eq_some.mp found
  obtain ⟨w, word, either⟩ := marks mark known
  obtain ⟨d, ends, parts⟩ : ∃ d, (d = ' ' ∨ d = '(') ∧
      Text.upper mark.toList = ' ' :: (w.toList ++ [d]) :=
    either.elim (fun parts => ⟨' ', .inl rfl, parts⟩) fun parts => ⟨'(', .inr rfl, parts⟩
  rw [parts] at same
  obtain ⟨e, more, rfl, first, tail⟩ := List.map_eq_cons_iff.mp same
  obtain ⟨here, last, rfl, letters, single⟩ := List.map_eq_append_iff.mp tail
  obtain ⟨f, rfl, closing⟩ := List.map_eq_singleton_iff.mp single
  have space := (Text.toUpper_eq_iff (caseless_of_mark (.inl rfl))).mp first
  have stop := (Text.toUpper_eq_iff (caseless_of_mark ends)).mp closing
  refine ⟨w, word, here, d, rest, ?_, letters, ends⟩
  rw [space, stop]
  simp

theorem startsCondition_of_word {w : String} {word rest : Text} (known : w ∈ ["ON", "USING"])
    (letters : Text.upper word = w.toList) (ends : c = ' ' ∨ c = '(') :
    startsCondition (' ' :: (word ++ c :: rest)) := by
  have marks : ∀ w ∈ ["ON", "USING"],
      (∃ mark ∈ conditionMarks, Text.upper mark.toList = ' ' :: (w.toList ++ [' '])) ∧
        ∃ mark ∈ conditionMarks, Text.upper mark.toList = ' ' :: (w.toList ++ ['(']) := by
    decide +kernel
  obtain ⟨mark, mem, parts⟩ : ∃ mark ∈ conditionMarks,
      Text.upper mark.toList = ' ' :: (w.toList ++ [c]) := by
    rcases ends with rfl | rfl
    · exact (marks w known).1
    · exact (marks w known).2
  have capital : c.toUpper = c := (Text.toUpper_eq_iff (caseless_of_mark ends)).mpr rfl
  have found :
      Text.dropStartIgnoringCase? mark.toList (' ' :: (word ++ c :: rest)) = some rest := by
    refine Text.dropStartIgnoringCase?_eq_some.mpr ⟨' ' :: (word ++ [c]), by simp, ?_⟩
    rw [parts]
    simp [Text.upper, ← letters, capital]
  refine List.any_eq_true.mpr ⟨mark, mem, ?_⟩
  rw [found]
  rfl

/-- A condition starts with one of two words between a space and a space or a parenthesis. -/
theorem startsCondition_iff {t : Text} :
    startsCondition t ↔ ∃ w ∈ ["ON", "USING"], ∃ word d rest, t = ' ' :: (word ++ d :: rest) ∧
      Text.upper word = w.toList ∧ (d = ' ' ∨ d = '(') := by
  constructor
  · exact exists_of_startsCondition
  · rintro ⟨w, known, word, d, rest, rfl, letters, ends⟩
    exact startsCondition_of_word known letters ends

theorem eq_space_of_startsCondition (starts : startsCondition (c :: a)) : c = ' ' := by
  obtain ⟨w, known, word, d, rest, same, -⟩ := startsCondition_iff.mp starts
  exact (List.cons.inj same).1

/-- Whether the token is the word that a condition starts with, a gap before it and a gap or a
parenthesis after it. -/
def opensCondition (t : Token) (next : Option Token) : Bool :=
  t.spaced && t.isAnyWord ["ON", "USING"] && next.any fun u => u.spaced || u.kind == .openParen

/-- A token holds spaces inside of quotes only. -/
theorem solid_of_reads (reads : t.ReadsBefore r) :
    (t.kind = .stringLiteral ∨ t.kind = .quotedName) ∨ ∀ c ∈ t.text, c ≠ ' ' := by
  obtain ⟨c, tail, -, here⟩ := reads
  rcases solid_of_read here with quoted | quoted | free
  · exact .inl (.inl quoted)
  · exact .inl (.inr quoted)
  · refine .inr fun d mem => ?_
    rintro rfl
    exact free ' ' mem rfl

theorem head_ne_space (reads : t.ReadsBefore r) : t.text.head? ≠ some ' ' := by
  rcases solid_of_reads reads with quoted | free
  · obtain ⟨c, tail, -, here⟩ := reads
    obtain ⟨quote, body, text, -⟩ := Lexeme.read_quoted here quoted
    rcases quote with rfl | rfl <;> simp [text]
  · exact fun head => free ' ' (List.mem_of_mem_head? head) rfl

theorem last_ne_space (reads : t.ReadsBefore r) : t.text.getLast? ≠ some ' ' := by
  rcases solid_of_reads reads with quoted | free
  · obtain ⟨c, tail, -, here⟩ := reads
    obtain ⟨quote, body, text, closes⟩ := Lexeme.read_quoted here quoted
    obtain ⟨inner, rfl⟩ := List.getLast?_eq_some_iff.mp (getLast?_of_closeQuote? closes)
    have last : t.text.getLast? = some c := by rw [text, ← List.cons_append, List.getLast?_concat]
    rw [last]
    rcases quote with rfl | rfl <;> decide
  · exact fun last => free ' ' (List.mem_of_getLast? last) rfl

/-- A text that starts with a space has a gap there. -/
theorem spaced_of_space {cs : Text} (legible : Legible (u :: us))
    (same : trail (u :: us) = ' ' :: cs) :
    u.spaced ∧ cs = render (u :: us) := by
  rw [trail_cons, spacedText] at same
  split at same
  next gap => exact ⟨gap, (List.cons.inj same).2.symm⟩
  next =>
    obtain ⟨e, tail, text⟩ := List.exists_cons_of_ne_nil legible.1.text_ne_nil
    rw [text] at same
    exact absurd (by simp [text, (List.cons.inj same).1]) (head_ne_space legible.1)

/-- Nothing but a gap before a token starts with a space, nothing but a parenthesis with one. -/
theorem trail_mark (legible : Legible (u :: us)) :
    (∃ d rest, trail (u :: us) = d :: rest ∧ (d = ' ' ∨ d = '(')) ↔
      u.spaced || u.kind == .openParen := by
  obtain ⟨e, tail, text⟩ := List.exists_cons_of_ne_nil legible.1.text_ne_nil
  rw [Bool.or_eq_true, beq_iff_eq, openParen_iff text legible.1, trail_cons, spacedText]
  by_cases gap : u.spaced
  · simp [gap]
  · have noSpace : e ≠ ' ' := by
      rintro rfl
      exact head_ne_space legible.1 (by simp [text])
    simp [gap, text, noSpace]

/-- Where a condition starts between tokens, its word stands. -/
theorem opens_of_startsCondition (legible : Legible (t :: ts))
    (starts : startsCondition (trail (t :: ts))) : opensCondition t ts.head? := by
  have letters : ∀ w ∈ ["ON", "USING"], w.toList ≠ [] ∧ ∀ c ∈ w.toList, c.isUpper := by simp
  obtain ⟨w, known, word, d, rest, whole, upper, ends⟩ := startsCondition_iff.mp starts
  obtain ⟨nonempty, capitals⟩ := letters w known
  obtain ⟨spaced, same⟩ := spaced_of_space legible whole
  have alphas : ∀ c ∈ word, c.isAlpha := fun c mem =>
    Text.isAlpha_of_toUpper (capitals _ (upper ▸ List.mem_map_of_mem mem))
  have nonempty' : word ≠ [] := by
    rintro rfl
    exact nonempty upper.symm
  have stops : isNamePart d = false := by
    rcases ends with rfl | rfl <;> decide
  obtain ⟨kind, text, later⟩ := first_word_of_render legible alphas nonempty' stops same.symm
  have isWord : t.isAnyWord ["ON", "USING"] :=
    List.any_eq_true.mpr ⟨w, known, by simp [isWord, kind, text, upper]⟩
  have next : ts.head?.any fun u => u.spaced || u.kind == .openParen := by
    cases ts with
    | nil => cases later
    | cons u us => exact (trail_mark legible.2).mp ⟨d, rest, later, ends⟩
  rw [opensCondition, spaced, isWord, next]
  rfl

theorem startsCondition_of_opens (legible : Legible (t :: ts))
    (opens : opensCondition t ts.head?) : startsCondition (trail (t :: ts)) := by
  simp only [opensCondition, Bool.and_eq_true] at opens
  obtain ⟨⟨spaced, isWord⟩, next⟩ := opens
  obtain ⟨w, known, word⟩ := List.any_eq_true.mp isWord
  cases ts with
  | nil => cases next
  | cons u us =>
      obtain ⟨d, rest, later, ends⟩ := (trail_mark legible.2).mpr next
      refine startsCondition_iff.mpr ⟨w, known, t.text, d, rest, ?_, upper_of_isWord word, ends⟩
      rw [trail_cons, later, spacedText, if_pos spaced]
      rfl

theorem startsCondition_trail (legible : Legible (t :: ts)) :
    startsCondition (trail (t :: ts)) ↔ opensCondition t ts.head? :=
  ⟨opens_of_startsCondition legible, startsCondition_of_opens legible⟩

/-! ### Texts without a condition -/

/-- Whether no condition starts inside of the first text where the second one follows it. -/
def Uncut : Text → Text → Prop
  | [], _ => True
  | c :: a, b => startsCondition (c :: (a ++ b)) = false ∧ Uncut a b

/-- Where no condition starts nothing is cut. -/
theorem splitTarget_append_of_uncut (uncut : Uncut a b) :
    splitTarget (a ++ b) = (a ++ (splitTarget b).1, (splitTarget b).2) := by
  induction a with
  | nil => rfl
  | cons c a ih =>
      rw [List.cons_append, splitTarget, uncut.1, ih uncut.2]
      rfl

/-- A text is cut where no condition starts before the cut, and one starts after it, or nothing
is left. -/
theorem splitTarget_of_uncut (uncut : Uncut a b) (ends : b = [] ∨ startsCondition b) :
    splitTarget (a ++ b) = (a, b) := by
  have here : splitTarget b = ([], b) := by
    cases b with
    | nil => rfl
    | cons d b => rw [splitTarget, if_pos (by simpa using ends)]
  rw [splitTarget_append_of_uncut uncut, here, List.append_nil]

theorem uncut_splitTarget (t : Text) : Uncut (splitTarget t).1 (splitTarget t).2 := by
  induction t with
  | nil => trivial
  | cons c cs ih =>
      rw [splitTarget]
      split
      · trivial
      next none =>
        have whole := splitTarget_append cs
        rw [← whole, Bool.not_eq_true] at none
        exact ⟨none, ih⟩

theorem startsCondition_splitTarget (t : Text) :
    (splitTarget t).2 = [] ∨ startsCondition (splitTarget t).2 := by
  induction t with
  | nil => exact .inl rfl
  | cons c cs ih =>
      rw [splitTarget]
      split
      next starts => exact .inr starts
      next => exact ih

theorem uncut_append {a' : Text} : Uncut (a ++ a') b ↔ Uncut a (a' ++ b) ∧ Uncut a' b := by
  induction a with
  | nil => simp [Uncut]
  | cons c a ih => simp [Uncut, ih, and_assoc]

/-- No condition starts at another character than a space. -/
theorem uncut_of_ne_space (free : ∀ c ∈ a, c ≠ ' ') : Uncut a b := by
  induction a with
  | nil => trivial
  | cons c a ih =>
      rw [List.forall_mem_cons] at free
      refine ⟨?_, ih free.2⟩
      rw [← Bool.not_eq_true]
      exact fun starts => free.1 (eq_space_of_startsCondition starts)

/-- What follows a quote is not part of a mark before it. -/
theorem startsCondition_append_quote {q : Char} (quote : q = '\'' ∨ q = '"') (b b' : Text)
    (starts : startsCondition (a ++ q :: b)) : startsCondition (a ++ q :: b') := by
  obtain ⟨w, known, word, d, rest, whole, upper, ends⟩ := startsCondition_iff.mp starts
  have split : a ++ q :: b = (' ' :: word ++ [d]) ++ rest := by simpa using whole
  have outside : q ∉ ' ' :: word ++ [d] := by
    have free : ∀ w ∈ ["ON", "USING"], '\'' ∉ w.toList ∧ '"' ∉ w.toList := by decide
    intro mem
    have notWord : q ∉ word := by
      intro inside
      have letter : q.toUpper ∈ w.toList := upper ▸ List.mem_map_of_mem inside
      rcases quote with rfl | rfl
      · exact (free w known).1 letter
      · exact (free w known).2 letter
    rcases quote with rfl | rfl <;> rcases ends with rfl | rfl <;> simp_all
  obtain ⟨z, rfl⟩ : ∃ z, a = (' ' :: word ++ [d]) ++ z := by
    rcases List.append_eq_append_iff.mp split with ⟨z, mark, here⟩ | ⟨z, front, -⟩
    · cases z with
      | nil => exact ⟨[], by simpa using mark.symm⟩
      | cons e z =>
          obtain ⟨rfl, -⟩ := List.cons.inj here
          exact absurd (by simp [mark]) outside
    · exact ⟨z, front⟩
  refine startsCondition_iff.mpr ⟨w, known, word, d, z ++ q :: b', ?_, upper, ends⟩
  simp

/-- Whether a condition starts inside of a quoted text does not depend on what follows it. -/
theorem uncut_quoted {q : Char} (quote : q = '\'' ∨ q = '"') (b b' : Text)
    (uncut : Uncut (a ++ [q]) b) : Uncut (a ++ [q]) b' := by
  induction a with
  | nil =>
      refine uncut_of_ne_space fun c mem => ?_
      rcases quote with rfl | rfl <;> simp_all
  | cons c a ih =>
      refine ⟨?_, ih uncut.2⟩
      have whole : ∀ b, c :: (a.append [q] ++ b) = (c :: a) ++ q :: b := by simp
      have none := uncut.1
      rw [whole, ← Bool.not_eq_true] at none ⊢
      exact fun starts => none (startsCondition_append_quote quote b' b starts)

/-! ### Tokens without a condition -/

/-- Whether a condition starts inside of a token does not depend on what follows it. -/
theorem uncut_text (reads : t.ReadsBefore r) (b b' : Text) (uncut : Uncut t.text b) :
    Uncut t.text b' := by
  rcases solid_of_reads reads with quoted | free
  · obtain ⟨c, tail, same, here⟩ := reads
    obtain ⟨quote, body, whole, closes⟩ := Lexeme.read_quoted here quoted
    obtain ⟨inner, last⟩ := List.getLast?_eq_some_iff.mp (getLast?_of_closeQuote? closes)
    have text : t.text = (c :: inner) ++ [c] := by rw [whole, last]; rfl
    rw [text] at uncut ⊢
    exact uncut_quoted quote b b' uncut
  · exact uncut_of_ne_space free

theorem uncut_cons (legible : Legible (t :: ts)) :
    Uncut t.spacedText (trail ts) ↔ opensCondition t ts.head? = false ∧ Uncut t.text [] := by
  have inside : Uncut t.text (trail ts) ↔ Uncut t.text [] :=
    ⟨uncut_text legible.1 _ _, uncut_text legible.1 _ _⟩
  rw [← inside, ← Bool.not_eq_true, ← startsCondition_trail legible, trail_cons, spacedText]
  split
  · rw [Bool.not_eq_true]
    rfl
  next gap =>
    obtain ⟨c, tail, text⟩ := List.exists_cons_of_ne_nil legible.1.text_ne_nil
    have none : ¬ startsCondition (t.text ++ trail ts) := by
      rw [text]
      intro starts
      obtain rfl := eq_space_of_startsCondition starts
      exact head_ne_space legible.1 (by simp [text])
    exact (and_iff_right none).symm

end SqlGrader.Join
