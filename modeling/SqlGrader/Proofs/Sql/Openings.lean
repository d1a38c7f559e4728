import SqlGrader.Proofs.Sql.Cosmetic
/-!
# Where sections open

The words that open a section depend on the section that they stand in: `SELECT` opens one only
where no other is open, `OFFSET` and `FETCH` open none inside of a limit, and a join starts with
its modifiers only among tables. A boundary is found exactly where such words stand, whatever
their case, and the tokens after them do not matter.
-/

namespace SqlGrader.Token

variable {t : Token} {ts : List Token}

theorem kind_of_isWord {w : String} (word : t.isWord w) : t.kind = .word := by
  simp only [isWord, Bool.and_eq_true, beq_iff_eq] at word
  exact word.1

theorem upper_of_isWord {w : String} (word : t.isWord w) : Text.upper t.text = w.toList := by
  simp only [isWord, Bool.and_eq_true, beq_iff_eq] at word
  exact word.2

theorem isReserved_of_isWord {w : String} (known : w ∈ Keyword.reserved) (word : t.isWord w) :
    Keyword.isReserved t.text = true :=
  List.any_eq_true.mpr ⟨w, known, beq_iff_eq.mpr (upper_of_isWord word).symm⟩

/-- A word that is told by its letters holds no white space. -/
theorem visible_of_isWord {w : String} (word : t.isWord w)
    (letters : w.toList.all (!Text.isBlank ·)) : ∀ c ∈ t.text, ¬ Text.isBlank c := by
  intro c mem blank
  have letter : c.toUpper ∈ w.toList := upper_of_isWord word ▸ List.mem_map_of_mem mem
  have visible := List.all_eq_true.mp letters _ letter
  rw [Text.isBlank_toUpper, blank] at visible
  cases visible

theorem kind_of_isAnyWord {ws : List String} (word : t.isAnyWord ws) : t.kind = .word := by
  obtain ⟨w, -, here⟩ := List.any_eq_true.mp word
  exact kind_of_isWord here

/-- A token is one word at most. -/
theorem isWord_eq {w : String} (word : t.isWord w) (w' : String) : t.isWord w' = (w == w') := by
  rw [Bool.eq_iff_iff, beq_iff_eq]
  constructor
  · intro word'
    exact String.toList_inj.mp ((upper_of_isWord word).symm.trans (upper_of_isWord word'))
  · rintro rfl
    exact word

theorem isAnyWord_eq {w : String} (word : t.isWord w) (ws : List String) :
    t.isAnyWord ws = ws.contains w := by
  have same : t.isWord = fun w' => w == w' := funext (isWord_eq word)
  rw [isAnyWord, same, List.contains_eq_any_beq]

theorem isAnyWord_of_kind_ne (noWord : t.kind ≠ .word) (ws : List String) :
    t.isAnyWord ws = false :=
  Bool.eq_false_iff.mpr fun word => noWord (kind_of_isAnyWord word)

theorem kind_of_isParen (paren : t.isParen) : t.kind ≠ .word := by
  intro word
  simp [isParen, word] at paren

/-- Parenthesis depth after the tokens. -/
def depthAt (depth : Nat) (ts : List Token) : Nat := ts.foldl depthAfter depth

theorem depthAfter_of_not_isParen (depth : Nat) (noParen : t.isParen = false) :
    t.depthAfter depth = depth := by
  cases kind : t.kind <;> simp_all [isParen, depthAfter]

theorem depthAt_of_not_isParen (depth : Nat) (noParens : ∀ t ∈ ts, t.isParen = false) :
    depthAt depth ts = depth := by
  induction ts with
  | nil => rfl
  | cons t ts ih =>
      rw [depthAt, List.foldl_cons, depthAfter_of_not_isParen depth (noParens t (by simp))]
      exact ih fun u mem => noParens u (by simp [mem])

theorem depthAt_of_words (depth : Nat) (words : ∀ t ∈ ts, t.kind = .word) :
    depthAt depth ts = depth :=
  depthAt_of_not_isParen depth fun t mem => by simp [isParen, words t mem]

theorem Neutral.depthAt {f : Token → Token} (neutral : Neutral f) (depth : Nat)
    (ts : List Token) :
    depthAt depth (ts.map f) = depthAt depth ts := by
  simp only [Token.depthAt, List.foldl_map, neutral.depthAfter]

theorem depthAt_atStart (depth : Nat) (ts : List Token) :
    depthAt depth (atStart ts) = depthAt depth ts := by
  cases ts <;> rfl

end SqlGrader.Token

namespace SqlGrader.Boundary

open Token

variable {t : Token} {ts us opening : List Token} {current : Option Slot} {b : Boundary} {n : Nat}

theorem not_isJoinModifier_of_join (join : t.isWord "JOIN") : ¬ isJoinModifier t := by
  intro modifier
  obtain ⟨w, mem, here⟩ := List.any_eq_true.mp modifier
  have same : w.toList = "JOIN".toList := (upper_of_isWord here).symm.trans (upper_of_isWord join)
  have other : ∀ w ∈ joinModifiers, w.toList ≠ "JOIN".toList := by decide
  exact other w mem same

/-- A join opens with its modifiers and `JOIN`. -/
theorem joinWidth?_eq_some :
    joinWidth? ts = some n ↔
      ∃ modifiers j rest, ts = modifiers ++ j :: rest ∧ (∀ m ∈ modifiers, isJoinModifier m) ∧
        j.isWord "JOIN" ∧ n = modifiers.length + 1 := by
  constructor
  · intro width
    simp only [joinWidth?] at width
    split at width
    next t rest after =>
      split at width
      next join =>
        refine ⟨ts.takeWhile isJoinModifier, t, rest, ?_, ?_, join, (Option.some.inj width).symm⟩
        · rw [← after]
          have front := List.prefix_iff_eq_take.mp (List.takeWhile_prefix (l := ts) isJoinModifier)
          conv_lhs => rw [← List.take_append_drop (ts.takeWhile isJoinModifier).length ts, ← front]
        · exact List.all_eq_true.mp List.all_takeWhile
      next => cases width
    next => cases width
  · rintro ⟨modifiers, j, rest, rfl, all, join, rfl⟩
    have stops := not_isJoinModifier_of_join join
    have taken : (modifiers ++ j :: rest).takeWhile isJoinModifier = modifiers := by
      rw [List.takeWhile_append_of_pos all, List.takeWhile_cons_of_neg stops, List.append_nil]
    simp [joinWidth?, taken, join]

theorem joinWidth?_append (noWord : ∀ u ∈ us.head?, u.kind ≠ .word) (ts : List Token) :
    joinWidth? (ts ++ us) = joinWidth? ts := by
  have noJoin : ∀ (front : List Token) {j : Token} {rest : List Token}, us = front ++ j :: rest →
      (∀ m ∈ front, isJoinModifier m) → j.isWord "JOIN" → False := by
    intro front j rest same all join
    -- The keywords would reach into the tokens that start with no word.
    cases front with
    | nil => exact noWord j (by simp [same]) (kind_of_isWord join)
    | cons m front => exact noWord m (by simp [same]) (kind_of_isAnyWord (all m (by simp)))
  refine Option.ext fun n => ?_
  rw [joinWidth?_eq_some, joinWidth?_eq_some]
  constructor
  · rintro ⟨modifiers, j, rest, same, all, join, rfl⟩
    rcases List.append_eq_append_iff.mp same with ⟨front, rfl, tail⟩ | ⟨front, rfl, tail⟩
    · exact (noJoin front tail (fun m mem => all m (by simp [mem])) join).elim
    · cases front with
      | nil => exact (noJoin [] tail.symm (by simp) join).elim
      | cons u front =>
          obtain ⟨rfl, -⟩ := List.cons.inj tail
          exact ⟨modifiers, j, front, rfl, all, join, rfl⟩
  · rintro ⟨modifiers, j, rest, rfl, all, join, rfl⟩
    exact ⟨modifiers, j, rest ++ us, by simp, all, join, rfl⟩

/-- Tokens that start with no word do not help to open a section. -/
theorem at?_append (noWord : ∀ u ∈ us.head?, u.kind ≠ .word) (current : Option Slot) (t : Token)
    (ts : List Token) :
    at? current t (ts ++ us) = at? current t ts := by
  have next : (ts ++ us).head?.any (·.isWord "BY") = ts.head?.any (·.isWord "BY") := by
    cases ts with
    | cons u ts => rfl
    | nil =>
        cases us with
        | nil => rfl
        | cons u us =>
            have noBy : ¬ u.isWord "BY" := fun isBy => noWord u rfl (kind_of_isWord isBy)
            simp [noBy]
  have width := joinWidth?_append noWord (t :: ts)
  rw [List.cons_append] at width
  simp only [at?, next, width]

/-- Whether a gap stands before the first word does not matter. -/
theorem at?_respaced (current : Option Slot) (t : Token) (spaced : Bool) (ts : List Token) :
    at? current { t with spaced := spaced } ts = at? current t ts := by
  have width : joinWidth? ({ t with spaced := spaced } :: ts) = joinWidth? (t :: ts) := by
    have same : isJoinModifier { t with spaced := spaced } = isJoinModifier t := rfl
    by_cases modifier : isJoinModifier t
    · simp [joinWidth?, same, modifier]
    · simp only [joinWidth?, List.takeWhile_cons, same, modifier]
      rfl
  unfold at?
  rw [width]
  rfl

/-- The clauses that open with one word wherever it stands. -/
def soleWords : List (String × ClauseKind) :=
  [("FROM", .source), ("WHERE", .filter), ("HAVING", .having), ("LIMIT", .limit)]

/-- The clauses that open with a word and `BY`. -/
def wordsBeforeBy : List (String × ClauseKind) := [("GROUP", .grouping), ("ORDER", .ordering)]

/-- The words that boundaries are made of. -/
def openingWords : List String :=
  soleWords.map Prod.fst ++ wordsBeforeBy.map Prod.fst ++
    ("BY" :: "OFFSET" :: "FETCH" :: "SELECT" :: "WINDOW" :: "JOIN" :: joinModifiers)

/-- The words that a boundary inside of the section `current` is made of. -/
inductive Opening : Option Slot → Boundary → List Token → Prop
  | select {t : Token} (word : t.isWord "SELECT") : Opening none ⟨.clause .projection, 1, false⟩ [t]
  | sole {current : Option Slot} {w : String} {kind : ClauseKind} {t : Token}
      (known : (w, kind) ∈ soleWords) (word : t.isWord w) :
      Opening current ⟨.clause kind, 1, false⟩ [t]
  | before {current : Option Slot} {w : String} {kind : ClauseKind} {t u : Token}
      (known : (w, kind) ∈ wordsBeforeBy) (word : t.isWord w) (next : u.isWord "BY") :
      Opening current ⟨.clause kind, 2, false⟩ [t, u]
  | rows {current : Option Slot} {w : String} {t : Token} (known : w ∈ ["OFFSET", "FETCH"])
      (word : t.isWord w) (outside : current ≠ some (.clause .limit)) :
      Opening current ⟨.clause .limit, 1, true⟩ [t]
  | window {current : Option Slot} {t : Token} (word : t.isWord "WINDOW") :
      Opening current ⟨.unscored, 1, false⟩ [t]
  | join {current : Option Slot} {modifiers : List Token} {j : Token}
      (all : ∀ m ∈ modifiers, isJoinModifier m) (word : j.isWord "JOIN")
      (among : modifiers = [] ∨ listsTables current) :
      Opening current ⟨.clause .joins, modifiers.length + 1, true⟩ (modifiers ++ [j])

theorem joinWidth?_modifiers {modifiers : List Token} {j : Token}
    (all : ∀ m ∈ modifiers, isJoinModifier m) (word : j.isWord "JOIN") (rest : List Token) :
    joinWidth? (modifiers ++ j :: rest) = some (modifiers.length + 1) :=
  joinWidth?_eq_some.mpr ⟨modifiers, j, rest, rfl, all, word, rfl⟩

namespace Opening

theorem length_eq (opens : Opening current b opening) : opening.length = b.width := by
  cases opens <;> simp

theorem words (opens : Opening current b opening) : ∀ u ∈ opening, u.kind = .word := by
  cases opens with
  | select word | sole _ word | rows _ word | window word => simp [kind_of_isWord word]
  | before _ word next => simp [kind_of_isWord word, kind_of_isWord next]
  | join all word =>
      intro u mem
      rcases List.mem_append.mp mem with modifier | last
      · exact kind_of_isAnyWord (all u modifier)
      · rw [List.mem_singleton.mp last]
        exact kind_of_isWord word

theorem ne_nil (opens : Opening current b opening) : opening ≠ [] := by
  cases opens <;> simp

theorem known_words (opens : Opening current b opening) :
    ∀ t ∈ opening, ∃ w ∈ openingWords, t.isWord w := by
  have listed {w : String} {kind : ClauseKind} {words : List (String × ClauseKind)}
      (known : (w, kind) ∈ words) : w ∈ words.map Prod.fst :=
    List.mem_map_of_mem known
  cases opens with
  | select word => simpa using ⟨"SELECT", by simp [openingWords], word⟩
  | @sole _ w _ _ known word => simpa using ⟨w, by simp [openingWords, listed known], word⟩
  | @before _ w _ _ _ known word next =>
      simpa using ⟨⟨w, by simp [openingWords, listed known], word⟩,
        ⟨"BY", by simp [openingWords], next⟩⟩
  | @rows _ w _ known word =>
      have isListed : w ∈ openingWords := by
        simp only [List.mem_cons, List.not_mem_nil, or_false] at known
        rcases known with rfl | rfl <;> simp [openingWords]
      simpa using ⟨w, isListed, word⟩
  | window word => simpa using ⟨"WINDOW", by simp [openingWords], word⟩
  | join all word =>
      intro t mem
      rcases List.mem_append.mp mem with modifier | last
      · obtain ⟨w, known, word'⟩ := List.any_eq_true.mp (all t modifier)
        exact ⟨w, by simp [openingWords, known], word'⟩
      · rw [List.mem_singleton.mp last]
        exact ⟨"JOIN", by simp [openingWords], word⟩

/-- A join is kept with its keywords. -/
theorem joins (opens : Opening current b opening) (slot : b.slot = .clause .joins) :
    b.kept ∧ ∃ modifiers j, opening = modifiers ++ [j] ∧
      (∀ m ∈ modifiers, isJoinModifier m) ∧ j.isWord "JOIN" := by
  cases opens with
  | join all word => exact ⟨rfl, _, _, rfl, all, word⟩
  | sole known | before known =>
      simp only [Slot.clause.injEq] at slot
      subst slot
      simp [soleWords, wordsBeforeBy] at known
  | select | rows | window => cases slot

/-- Where the words of a boundary stand it is found. -/
theorem at? (opens : Opening current b (t :: us)) (rest : List Token) :
    Boundary.at? current t (us ++ rest) = some b := by
  generalize same : t :: us = opening at opens
  cases opens with
  | select word =>
      obtain ⟨rfl, rfl⟩ := List.cons.inj same
      simp [Boundary.at?, word]
  | sole known word =>
      obtain ⟨rfl, rfl⟩ := List.cons.inj same
      simp only [soleWords, List.mem_cons, Prod.mk.injEq, List.not_mem_nil, or_false] at known
      rcases known with ⟨rfl, rfl⟩ | ⟨rfl, rfl⟩ | ⟨rfl, rfl⟩ | ⟨rfl, rfl⟩ <;>
        simp [Boundary.at?, isWord_eq word]
  | before known word next =>
      obtain ⟨rfl, rfl⟩ := List.cons.inj same
      simp only [wordsBeforeBy, List.mem_cons, Prod.mk.injEq, List.not_mem_nil, or_false] at known
      rcases known with ⟨rfl, rfl⟩ | ⟨rfl, rfl⟩ <;> simp [Boundary.at?, isWord_eq word, next]
  | rows known word outside =>
      obtain ⟨rfl, rfl⟩ := List.cons.inj same
      simp only [List.mem_cons, List.not_mem_nil, or_false] at known
      rcases known with rfl | rfl <;>
        simp [Boundary.at?, isWord_eq word, isAnyWord_eq word, outside]
  | window word =>
      obtain ⟨rfl, rfl⟩ := List.cons.inj same
      simp [Boundary.at?, isWord_eq word, isAnyWord_eq word]
  | @join _ modifiers j all word among =>
      have width := joinWidth?_modifiers all word rest
      cases modifiers with
      | nil =>
          obtain ⟨rfl, rfl⟩ := List.cons.inj same
          simp only [List.nil_append] at width
          simp [Boundary.at?, isWord_eq word, isAnyWord_eq word, width]
      | cons m ms =>
          obtain ⟨rfl, rfl⟩ := List.cons.inj same
          obtain ⟨w, known, word'⟩ := List.any_eq_true.mp (all t (by simp))
          have modifier := all t (by simp)
          have tables := among.resolve_left (by simp)
          simp only [List.cons_append] at width
          simp only [joinModifiers, List.mem_cons, List.not_mem_nil, or_false] at known
          rcases known with rfl | rfl | rfl | rfl | rfl | rfl | rfl <;>
            simp [Boundary.at?, isWord_eq word', isAnyWord_eq word', modifier, tables, width]

end Opening

/-- A boundary is found exactly where the words of one stand. -/
theorem at?_eq_some_iff :
    at? current t ts = some b ↔ ∃ opening, opening <+: t :: ts ∧ Opening current b opening := by
  constructor
  · intro opens
    have one : [t] <+: t :: ts := ⟨ts, rfl⟩
    have two : ∀ {w}, (t.isWord w && ts.head?.any (·.isWord "BY")) →
        ∃ u, [t, u] <+: t :: ts ∧ t.isWord w ∧ u.isWord "BY" := by
      intro w both
      rw [Bool.and_eq_true] at both
      obtain ⟨u, first, next⟩ := (Option.any_eq_true _ _).mp both.2
      obtain ⟨rest, rfl⟩ := List.head?_eq_some_iff.mp first
      exact ⟨u, ⟨rest, rfl⟩, both.1, next⟩
    unfold at? at opens
    simp only at opens
    split_ifs at opens with isSelect isFrom isWhere isGroup isHaving isOrder isLimit isRows
      isWindow isJoin
    · rw [Bool.and_eq_true, Option.isNone_iff_eq_none] at isSelect
      obtain ⟨isSelect, rfl⟩ := isSelect
      exact ⟨_, one, Option.some.inj opens ▸ .select isSelect⟩
    · exact ⟨_, one, Option.some.inj opens ▸ .sole (w := "FROM") (by decide) isFrom⟩
    · exact ⟨_, one, Option.some.inj opens ▸ .sole (w := "WHERE") (by decide) isWhere⟩
    · obtain ⟨u, front, word, next⟩ := two isGroup
      exact ⟨_, front, Option.some.inj opens ▸ .before (w := "GROUP") (by decide) word next⟩
    · exact ⟨_, one, Option.some.inj opens ▸ .sole (w := "HAVING") (by decide) isHaving⟩
    · obtain ⟨u, front, word, next⟩ := two isOrder
      exact ⟨_, front, Option.some.inj opens ▸ .before (w := "ORDER") (by decide) word next⟩
    · exact ⟨_, one, Option.some.inj opens ▸ .sole (w := "LIMIT") (by decide) isLimit⟩
    · rw [Bool.and_eq_true, bne_iff_ne] at isRows
      obtain ⟨w, known, word⟩ := List.any_eq_true.mp isRows.1
      exact ⟨_, one, Option.some.inj opens ▸ .rows known word isRows.2⟩
    · exact ⟨_, one, Option.some.inj opens ▸ .window isWindow⟩
    · obtain ⟨n, width, rfl⟩ := Option.map_eq_some_iff.mp opens
      obtain ⟨modifiers, j, rest, same, all, word, rfl⟩ := joinWidth?_eq_some.mp width
      refine ⟨modifiers ++ [j], ⟨rest, by simp [same]⟩, .join all word ?_⟩
      cases modifiers with
      | nil => exact .inl rfl
      | cons m ms =>
          obtain ⟨rfl, -⟩ := List.cons.inj same
          have noJoin : t.isWord "JOIN" = false :=
            Bool.eq_false_iff.mpr fun join => not_isJoinModifier_of_join join (all t (by simp))
          simp only [noJoin, Bool.or_false, Bool.and_eq_true] at isJoin
          exact .inr isJoin.1
  · rintro ⟨opening, ⟨rest, same⟩, opens⟩
    obtain ⟨u, us, rfl⟩ := List.exists_cons_of_ne_nil opens.ne_nil
    obtain ⟨rfl, rfl⟩ := List.cons.inj same
    exact opens.at? rest

/-- The words of a boundary are the first tokens, as many as it is wide. -/
theorem at?_take (opens : at? current t ts = some b) :
    Opening current b ((t :: ts).take b.width) ∧ b.width ≤ ts.length + 1 := by
  obtain ⟨opening, front, words⟩ := at?_eq_some_iff.mp opens
  have taken := List.prefix_iff_eq_take.mp front
  rw [words.length_eq] at taken
  refine ⟨taken ▸ words, ?_⟩
  rw [← words.length_eq]
  exact front.length_le

/-- The words that open a section stand at the start of the tokens. -/
theorem at?_width (opens : at? current t ts = some b) :
    1 ≤ b.width ∧ b.width ≤ ts.length + 1 ∧ ∀ u ∈ (t :: ts).take b.width, u.kind = .word := by
  obtain ⟨words, fits⟩ := at?_take opens
  exact ⟨words.length_eq ▸ List.length_pos_iff.mpr words.ne_nil, fits, words.words⟩

/-- What the scan goes on with after the words of a boundary. -/
theorem at?_drop (opens : at? current t ts = some b) :
    (t :: ts).drop b.width = ts.drop (b.width - 1) := by
  obtain ⟨n, width⟩ := Nat.exists_eq_add_of_le' (at?_width opens).1
  rw [width, List.drop_succ_cons, Nat.add_sub_cancel]

theorem at?_take_append_drop (opens : at? current t ts = some b) :
    (t :: ts).take b.width ++ ts.drop (b.width - 1) = t :: ts := by
  rw [← at?_drop opens, List.take_append_drop]

end SqlGrader.Boundary

namespace SqlGrader.Token.Neutral

variable {f : Token → Token} (neutral : Neutral f)
include neutral

theorem isJoinModifier (t : Token) :
    Boundary.isJoinModifier (f t) = Boundary.isJoinModifier t :=
  neutral.isAnyWord t (by decide)

theorem joinWidth? (ts : List Token) :
    Boundary.joinWidth? (ts.map f) = Boundary.joinWidth? ts := by
  have blind : Boundary.isJoinModifier ∘ f = Boundary.isJoinModifier :=
    funext neutral.isJoinModifier
  simp only [Boundary.joinWidth?, List.takeWhile_map, blind, List.length_map, ← List.map_drop]
  cases ts.drop (ts.takeWhile Boundary.isJoinModifier).length with
  | nil => rfl
  | cons t rest => simp only [List.map_cons, neutral.isWord t (w := "JOIN") (by decide)]

theorem boundaryAt? (current : Option Slot) (t : Token) (ts : List Token) :
    Boundary.at? current (f t) (ts.map f) = Boundary.at? current t ts := by
  have word : ∀ w ∈ Keyword.structural, (f t).isWord w = t.isWord w :=
    fun w known => neutral.isWord t known
  have next : (ts.map f).head?.any (·.isWord "BY") = ts.head?.any (·.isWord "BY") := by
    cases ts with
    | nil => rfl
    | cons u us => exact neutral.isWord u (by decide)
  have rows : (f t).isAnyWord ["OFFSET", "FETCH"] = t.isAnyWord ["OFFSET", "FETCH"] :=
    neutral.isAnyWord t (by decide)
  have width := neutral.joinWidth? (t :: ts)
  rw [List.map_cons] at width
  simp only [Boundary.at?, word "SELECT" (by decide), word "FROM" (by decide),
    word "WHERE" (by decide), word "GROUP" (by decide), word "HAVING" (by decide),
    word "ORDER" (by decide), word "LIMIT" (by decide), word "WINDOW" (by decide),
    word "JOIN" (by decide), rows, neutral.isJoinModifier, next, width]

theorem endsQuery (t : Token) : Section.endsQuery (f t) = Section.endsQuery t := by
  rw [Section.endsQuery, neutral.isTerminator, neutral.isAnyWord t (by decide), Section.endsQuery]

end SqlGrader.Token.Neutral
