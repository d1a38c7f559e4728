import SqlGrader.Proofs.Sql.Fragments
import SqlGrader.Proofs.Sql.Sections
/-!
# Where a join is cut

A join is cut at the first `JOIN` and at the first mark of a condition, both
looked for among the characters of its text. No word in front of `JOIN` holds a
J, so the first cut is the keyword. The second one lies between two tokens
unless it lies in quotes, and then what stands before it leaves a quote open.
Twins that are cut after equally many tokens have akin tables and conditions.
-/

namespace SqlGrader.Text

variable {s t : Text}

theorem words_upper (t : Text) : words (upper t) = (words t).map upper := by
  have pieces : ∀ u : Text,
      (upper u).splitOnP isBlank = (u.splitOnP isBlank).map upper := by
    intro u
    induction u with
    | nil => rfl
    | cons c cs ih =>
        have blind : upper (c :: cs) = c.toUpper :: upper cs := rfl
        rw [blind, List.splitOnP_cons_eq_if_modifyHead, List.splitOnP_cons_eq_if_modifyHead,
          isBlank_toUpper, ih]
        split
        · rfl
        · cases cs.splitOnP isBlank <;> rfl
  have empty : (fun w : Text => !w.isEmpty) ∘ upper = fun w => !w.isEmpty := by
    funext w
    cases w <;> rfl
  rw [words, words, pieces, List.filter_map, empty]

end SqlGrader.Text

namespace SqlGrader.Join

open Token Lexer

variable {t j : Token} {ts us modifiers body body' : List Token} {a b front rest x y : Text}
  {f : Token → Token}

/-! ### The keywords -/

theorem splitKeywords?_append {word : Text} (noJ : ∀ c ∈ front, c.toUpper ≠ 'J')
    (join : Text.upper word = "JOIN".toList) (rest : Text) :
    splitKeywords? (front ++ (word ++ rest)) = some (front ++ word, rest) := by
  induction front with
  | nil =>
      have len : word.length = 4 := by simpa [Text.upper] using congrArg List.length join
      have here : Text.dropStartIgnoringCase? "JOIN".toList (word ++ rest) = some rest :=
        Text.dropStartIgnoringCase?_eq_some.mpr ⟨word, rfl, join⟩
      obtain ⟨c, cs, rfl⟩ := List.exists_cons_of_length_pos (l := word) (by omega)
      rw [List.nil_append, List.nil_append, List.cons_append, splitKeywords?]
      rw [List.cons_append] at here
      simp only [here]
      rw [← List.cons_append, ← len, List.take_left]
  | cons c cs ih =>
      rw [List.forall_mem_cons] at noJ
      have other : Text.dropStartIgnoringCase? "JOIN".toList (c :: (cs ++ (word ++ rest))) =
          none := by
        refine Option.eq_none_iff_forall_not_mem.mpr fun r found => ?_
        obtain ⟨start, same, letters⟩ := Text.dropStartIgnoringCase?_eq_some.mp found
        cases start with
        | nil => simp [Text.upper] at letters
        | cons d ds =>
            obtain ⟨rfl, -⟩ := List.cons.inj same
            simp only [Text.upper, List.map_cons] at letters
            exact noJ.1 (List.cons.inj letters).1
      rw [List.cons_append, splitKeywords?, other, ih noJ.2]
      rfl

/-- The text of the modifiers, up to the join word. -/
def lead (spaced : Bool) (modifiers : List Token) : Text :=
  if modifiers = [] then [] else render modifiers ++ (if spaced then [' '] else [])

theorem render_join (modifiers : List Token) (j : Token) (body : List Token) :
    render (modifiers ++ j :: body) = lead j.spaced modifiers ++ (j.text ++ trail body) := by
  cases modifiers with
  | nil => rfl
  | cons m ms =>
      rw [lead, if_neg (List.cons_ne_nil m ms), List.cons_append, render_cons, trail_append,
        trail_cons, spacedText, render_cons]
      split <;> simp

theorem mem_render {c : Char} (mem : c ∈ render ts) : c = ' ' ∨ ∃ t ∈ ts, c ∈ t.text := by
  have spaced : ∀ t : Token, c ∈ t.spacedText → c = ' ' ∨ c ∈ t.text := by
    intro t mem
    unfold spacedText at mem
    split at mem
    · exact List.mem_cons.mp mem
    · exact .inr mem
  cases ts with
  | nil => simp [render] at mem
  | cons t ts =>
      rcases List.mem_append.mp mem with here | later
      · exact .inr ⟨t, by simp, here⟩
      · obtain ⟨u, mem', inside⟩ := List.mem_flatMap.mp later
        exact (spaced u inside).imp_right fun inside => ⟨u, by simp [mem'], inside⟩

theorem noJ_lead (all : ∀ m ∈ modifiers, Boundary.isJoinModifier m) (spaced : Bool) :
    ∀ c ∈ lead spaced modifiers, c.toUpper ≠ 'J' := by
  have free : ∀ w ∈ Boundary.joinModifiers, 'J' ∉ w.toList := by decide
  intro c mem capital
  have inside : c = ' ' ∨ ∃ m ∈ modifiers, c ∈ m.text := by
    unfold lead at mem
    split at mem
    · cases mem
    · rcases List.mem_append.mp mem with inside | gap
      · exact mem_render inside
      · refine .inl ?_
        cases spaced <;> simp_all
  rcases inside with rfl | ⟨m, mem, inside⟩
  · exact absurd capital (by decide)
  · obtain ⟨w, known, same⟩ := List.any_eq_true.mp (all m mem)
    refine free w known ?_
    rw [← upper_of_isWord same, ← capital]
    exact List.mem_map_of_mem inside

/-- The text up to and including `JOIN` is that of the keywords. -/
theorem lead_append (modifiers : List Token) (j : Token) :
    lead j.spaced modifiers ++ j.text = render (modifiers ++ [j]) := by
  rw [render_join, trail_nil, List.append_nil]

/-- A word after another one has a gap in front of it if it starts with a letter. -/
theorem spaced_of_words {u : Token} {w : String} (legible : Legible (t :: u :: us))
    (first : t.kind = .word) (second : u.isWord w) (letter : ∀ c ∈ w.toList.head?, c.isUpper) :
    u.spaced := by
  by_contra close
  obtain ⟨c, tail, text, reads⟩ := legible.1
  obtain ⟨d, tail', text', -⟩ := legible.2.1
  rw [first, text, Lexeme.read_eq_word] at reads
  have capital : d.toUpper.isUpper := by
    refine letter _ ?_
    rw [← upper_of_isWord second, text']
    rfl
  have part := isNamePart_of_isAlpha (Text.isAlpha_of_toUpper capital)
  refine reads.2.2 ?_
  rw [trail_cons, spacedText, if_neg close, text']
  simpa using part

theorem upper_trail_of_spaced (cosmetic : Cosmetic f) (same : ts.map f = us.map f)
    (left : ∀ t ∈ ts, t.spaced) (right : ∀ u ∈ us, u.spaced) :
    Text.upper (trail ts) = Text.upper (trail us) := by
  induction ts generalizing us with
  | nil =>
      obtain rfl : us = [] := by simpa using same.symm
      rfl
  | cons t ts ih =>
      obtain ⟨u, us', rfl, here, rest⟩ := List.map_eq_cons_iff.mp same.symm
      rw [List.forall_mem_cons] at left right
      have texts := cosmetic.upper_text t
      rw [← here, cosmetic.upper_text] at texts
      have rest := ih rest.symm left.2 right.2
      simp only [Text.upper, trail_cons, spacedText, left.1, right.1, if_true, List.map_append,
        List.map_cons] at rest texts ⊢
      rw [rest, texts]

/-- The keywords of a join have gaps between them. -/
theorem spaced_keywords (legible : Legible (t :: ts)) (first : t.kind = .word)
    (words : ∀ u ∈ ts, u.isAnyWord ("JOIN" :: Boundary.joinModifiers)) : ∀ u ∈ ts, u.spaced := by
  have letters : ∀ w ∈ "JOIN" :: Boundary.joinModifiers, ∀ c ∈ w.toList.head?, c.isUpper := by
    simp [Boundary.joinModifiers]
  induction ts generalizing t with
  | nil => simp
  | cons u us ih =>
      rw [List.forall_mem_cons] at words ⊢
      obtain ⟨w, known, word⟩ := List.any_eq_true.mp words.1
      exact ⟨spaced_of_words legible first word (letters w known),
        ih legible.2 (kind_of_isWord word) words.2⟩

theorem isAnyWord_keywords (all : ∀ m ∈ modifiers, Boundary.isJoinModifier m)
    (join : j.isWord "JOIN") :
    ∀ u ∈ modifiers ++ [j], u.isAnyWord ("JOIN" :: Boundary.joinModifiers) := by
  intro u mem
  rcases List.mem_append.mp mem with modifier | last
  · have known : u.isAnyWord Boundary.joinModifiers := all u modifier
    rw [isAnyWord, List.any_cons, Bool.or_eq_true]
    exact .inr known
  · rw [List.mem_singleton.mp last, isAnyWord, List.any_cons, join]
    rfl

/-- Twins open with the same keywords up to letter case. -/
theorem upper_render_keywords (cosmetic : Cosmetic f) (twin : Twin f ts us)
    (words : ∀ t ∈ ts, t.isAnyWord ("JOIN" :: Boundary.joinModifiers)) :
    Text.upper (render ts) = Text.upper (render us) := by
  have words' : ∀ u ∈ us, u.isAnyWord ("JOIN" :: Boundary.joinModifiers) :=
    forall_of_map_eq (fun t => by rw [cosmetic.isAnyWord]) twin.same words
  cases ts with
  | nil =>
      rw [twin.nil_iff.mp rfl]
  | cons t ts =>
      obtain ⟨u, us, rfl, here, rest⟩ := twin.uncons
      rw [List.forall_mem_cons] at words words'
      have left := spaced_keywords twin.left (kind_of_isAnyWord words.1) words.2
      have right := spaced_keywords twin.right (kind_of_isAnyWord words'.1) words'.2
      have texts := cosmetic.upper_text t
      rw [here, cosmetic.upper_text] at texts
      have later := upper_trail_of_spaced cosmetic rest.same left right
      simp only [Text.upper, render_cons, List.map_append] at later texts ⊢
      rw [later, texts]

/-! ### The condition -/

theorem splitTarget_append (t : Text) : (splitTarget t).1 ++ (splitTarget t).2 = t := by
  induction t with
  | nil => rfl
  | cons c cs ih =>
      rw [splitTarget]
      split
      · rfl
      · simp [ih]

theorem startsCondition_upper (t : Text) : startsCondition (Text.upper t) = startsCondition t := by
  have blind : ∀ s : Text, (Text.dropStartIgnoringCase? s (Text.upper t)).isSome =
      (Text.dropStartIgnoringCase? s t).isSome := by
    intro s
    have same : Text.upper ((Text.upper t).take s.length) = Text.upper (t.take s.length) := by
      rw [Text.upper, Text.upper, ← List.map_take, ← Text.upper, ← Text.upper, Text.upper_upper]
    by_cases here : Text.upper s == Text.upper (t.take s.length) <;>
      simp [Text.dropStartIgnoringCase?, Text.equalsIgnoringCase, same, here]
  simp only [startsCondition, blind]

theorem splitTarget_upper (t : Text) :
    splitTarget (Text.upper t) = (Text.upper (splitTarget t).1, Text.upper (splitTarget t).2) := by
  induction t with
  | nil => rfl
  | cons c cs ih =>
      have blind := startsCondition_upper (c :: cs)
      simp only [Text.upper, List.map_cons] at blind ih ⊢
      rw [splitTarget, splitTarget, blind, ih]
      split <;> simp

/-- A condition starts with a space. -/
theorem splitTarget_condition (t : Text) :
    (splitTarget t).2 = [] ∨ ∃ more, (splitTarget t).2 = ' ' :: more := by
  induction t with
  | nil => exact .inl rfl
  | cons c cs ih =>
      rw [splitTarget]
      split
      next starts =>
        have space : ∀ mark ∈ conditionMarks, mark.toList.head? = some ' ' := by decide
        obtain ⟨mark, known, found⟩ := List.any_eq_true.mp starts
        obtain ⟨rest, found⟩ := Option.isSome_iff_exists.mp found
        obtain ⟨start, whole, same⟩ := Text.dropStartIgnoringCase?_eq_some.mp found
        obtain ⟨d, head, capital⟩ := Text.head?_of_upper_eq same (space mark known)
        obtain ⟨ds, rfl⟩ := List.head?_eq_some_iff.mp head
        obtain ⟨rfl, -⟩ := List.cons.inj whole
        exact .inr ⟨cs, by rw [Text.eq_of_toUpper_eq capital (by decide)]⟩
      next => exact ih

/-! ### The cut lies between tokens -/

/-- The gap before a token. -/
def gap (t : Token) : Text := if t.spaced then [' '] else []

theorem spacedText_eq (t : Token) : t.spacedText = gap t ++ t.text := by
  unfold spacedText gap
  split <;> rfl

/-- A space in the text of plain tokens stands before a token or inside of quotes. -/
theorem trail_eq_append_space (legible : Legible body) (plain : ∀ t ∈ body, t.Plain)
    (whole : trail body = x ++ ' ' :: y) :
    (∃ before after, body = before ++ after ∧ x = trail before) ∨
      ∃ before t after p q, body = before ++ t :: after ∧
        (t.kind = .stringLiteral ∨ t.kind = .quotedName) ∧ t.text = p ++ ' ' :: q ∧ p ≠ [] ∧
          x = trail before ++ (gap t ++ p) := by
  induction body generalizing x with
  | nil => simp at whole
  | cons t ts ih =>
      rw [List.forall_mem_cons] at plain
      rw [trail_cons] at whole
      rcases List.append_eq_append_iff.mp whole with ⟨z, rfl, rest⟩ | ⟨z, here, rest⟩
      · rcases ih legible.2 plain.2 rest with
          ⟨before, after, rfl, rfl⟩ | ⟨before, u, after, p, q, rfl, quoted, text, nonempty, rfl⟩
        · exact .inl ⟨t :: before, after, rfl, rfl⟩
        · refine .inr ⟨t :: before, u, after, p, q, rfl, quoted, text, nonempty, ?_⟩
          rw [trail_cons, List.append_assoc]
      · cases z with
        | nil =>
            rw [List.append_nil] at here
            exact .inl ⟨[t], ts, rfl, by rw [trail_cons, trail_nil, List.append_nil, here]⟩
        | cons c z =>
            obtain ⟨rfl, -⟩ := List.cons.inj rest
            have inside : ∀ p, t.text = p ++ ' ' :: z →
                (t.kind = .stringLiteral ∨ t.kind = .quotedName) ∧ p ≠ [] := by
              intro p text
              refine ⟨plain.1.resolve_right fun free => ?_, ?_⟩
              · exact free ' ' (by simp [text]) rfl
              · rintro rfl
                exact (legible.1.trimmed plain.1).head ' ' (by simp [text]) rfl
            rw [spacedText_eq] at here
            unfold gap at here ⊢
            split at here
            next spaced =>
              cases x with
              | nil => exact .inl ⟨[], t :: ts, rfl, rfl⟩
              | cons d x =>
                  obtain ⟨rfl, text⟩ := List.cons.inj here
                  obtain ⟨quoted, nonempty⟩ := inside x text
                  refine .inr ⟨[], t, ts, x, z, rfl, quoted, text, nonempty, ?_⟩
                  simp [spaced]
            next spaced =>
              obtain ⟨quoted, nonempty⟩ := inside x here
              refine .inr ⟨[], t, ts, x, z, rfl, quoted, here, nonempty, ?_⟩
              simp [spaced]

/-- What stands before a space in a quoted token, without white space at its end,
is the start of a quote that is not closed. -/
theorem exists_unclosed {p q : Text} (reads : t.ReadsBefore rest)
    (quoted : t.kind = .stringLiteral ∨ t.kind = .quotedName) (text : t.text = p ++ ' ' :: q)
    (nonempty : p ≠ []) :
    ∃ c opened blanks d w, p = c :: opened ++ blanks ∧ (∀ e ∈ blanks, Text.isBlank e) ∧
      t.text = c :: opened ++ d :: w ∧ Text.Trimmed (c :: opened) ∧
        ∃ what, Lexeme.read c opened = .unclosed what := by
  obtain ⟨c, tail, whole, here⟩ := reads
  obtain ⟨quote, body, same, closes⟩ := Lexeme.read_quoted here quoted
  obtain ⟨-, rfl⟩ := List.cons.inj (whole.symm.trans same)
  have mark : ¬ Text.isBlank c := by
    rcases quote with rfl | rfl <;> decide
  have parts := List.rdropWhile_append_rtakeWhile (p := Text.isBlank) (l := p)
  have isBlanks : ∀ e ∈ p.rtakeWhile Text.isBlank, Text.isBlank e :=
    fun e mem => List.mem_rtakeWhile_imp mem
  have kept : p.rdropWhile Text.isBlank ≠ [] := by
    obtain ⟨e, es, rfl⟩ := List.exists_cons_of_ne_nil nonempty
    obtain ⟨rfl, -⟩ := List.cons.inj (whole.symm.trans text)
    exact fun all => mark (List.rdropWhile_eq_nil_iff.mp all c (by simp))
  have last := List.rdropWhile_last_not Text.isBlank p kept
  obtain ⟨e, opened, front⟩ := List.exists_cons_of_ne_nil kept
  -- The first character that is left out is white space, so it is not the quote.
  obtain ⟨d, w, after, blank⟩ : ∃ d w, p.rtakeWhile Text.isBlank ++ ' ' :: q = d :: w ∧
      Text.isBlank d := by
    cases blanks : p.rtakeWhile Text.isBlank with
    | nil => exact ⟨' ', q, rfl, rfl⟩
    | cons d blanks' => exact ⟨d, blanks' ++ ' ' :: q, rfl, isBlanks d (by simp [blanks])⟩
  have text' : t.text = e :: opened ++ d :: w := by
    rw [text, ← after, ← front, ← List.append_assoc, parts]
  obtain ⟨rfl, rest'⟩ : c = e ∧ tail = opened ++ d :: w := List.cons.inj (whole.symm.trans text')
  refine ⟨c, opened, p.rtakeWhile Text.isBlank, d, w, ?_, isBlanks, text', ⟨?_, ?_⟩, ?_⟩
  · rw [← front, parts]
  · simpa using mark
  · intro f mem
    rw [← front, List.getLast?_eq_some_getLast kept, Option.mem_def, Option.some.injEq] at mem
    rwa [← mem]
  · rw [rest', List.append_assoc, List.cons_append] at closes
    have other : d ≠ c := by
      rintro rfl
      exact mark blank
    have unclosed := closeQuote?_eq_none closes (by simp) other
    rcases quote with rfl | rfl
    · exact ⟨.string, by rw [Lexeme.read_single, Lexeme.quoted, unclosed]⟩
    · exact ⟨.quotedName, by rw [Lexeme.read_double, Lexeme.quoted, unclosed]⟩

theorem scan_render_of_trail {e : Delimited × Text}
    (refused : Lexer.scan false (trail ts) = .error e) :
    Lexer.scan false (render ts) = .error e := by
  cases ts with
  | nil => exact refused
  | cons t ts =>
      rw [trail_cons, spacedText] at refused
      split at refused
      · rw [List.cons_append, scan_space] at refused
        exact scan_error refused false
      · exact refused

/-- What stands before a space in a quoted token leaves the quote open. -/
theorem tokenize_unclosed {before after : List Token} {p q : Text}
    (legible : Legible (before ++ t :: after)) (plain : ∀ u ∈ before, u.Plain)
    (quoted : t.kind = .stringLiteral ∨ t.kind = .quotedName) (text : t.text = p ++ ' ' :: q)
    (nonempty : p ≠ []) :
    tokenize (Text.trim (trail before ++ (gap t ++ p))) ≠ .ok ts := by
  obtain ⟨c, opened, blanks, d, w, front, isBlanks, whole, trimmed, what, unread⟩ :=
    exists_unclosed legible.append_right.1 quoted text nonempty
  let cut : Token := { t with text := c :: opened }
  have texts : trail before ++ (gap t ++ p) = trail (before ++ [cut]) ++ blanks := by
    rw [trail_append, trail_cons, trail_nil, List.append_nil, spacedText_eq, front]
    simp [cut, gap]
  have neat : ∀ u ∈ before ++ [cut], u.text ≠ [] ∧ Text.Trimmed u.text := by
    intro u mem
    rcases List.mem_append.mp mem with inside | last
    · exact legible.append_left.neat plain u inside
    · rw [List.mem_singleton.mp last]
      exact ⟨List.cons_ne_nil _ _, trimmed⟩
  have repeats : Echo (trail (t :: after)) cut.spacedText := by
    have more : trail (t :: after) = cut.spacedText ++ (d :: w ++ trail after) := by
      simp [trail_cons, spacedText_eq, whole, cut, gap]
    rw [more]
    exact .of_isPrefix _ _
  have refused : ∀ b, Lexer.scan b (c :: opened) = .error (what, c :: opened) := by
    intro b
    rw [Lexer.scan]
    split
    next found => cases found.symm.trans unread
    next found => cases found.symm.trans unread
    next found =>
      obtain rfl := Lexeme.unclosed.inj (found.symm.trans unread)
      rfl
  have refused' : Lexer.scan false (trail (before ++ [cut])) = .error (what, c :: opened) := by
    rw [trail_append, trail_cons, trail_nil, List.append_nil, scan_trail_append legible repeats,
      spacedText]
    split
    · rw [scan_space, refused]
      rfl
    · rw [refused]
      rfl
  rw [texts, Text.trim_append_blanks isBlanks, trim_trail_of_forall neat, tokenize,
    scan_render_of_trail refused']
  exact fun read => by cases read

/-- A target that has tokens ends between two tokens of the join. -/
theorem splitTarget_trail (legible : Legible body) (plain : ∀ t ∈ body, t.Plain)
    (read : tokenize (Text.trim (splitTarget (trail body)).1) = .ok ts) :
    ∃ before after, body = before ++ after ∧ splitTarget (trail body) =
      (trail before, trail after) := by
  have whole := splitTarget_append (trail body)
  rcases splitTarget_condition (trail body) with none | ⟨more, condition⟩
  · refine ⟨body, [], (List.append_nil body).symm, ?_⟩
    rw [none, List.append_nil] at whole
    exact Prod.ext whole none
  · rw [condition] at whole
    rcases trail_eq_append_space legible plain whole.symm with
      ⟨before, after, rfl, target⟩ | ⟨before, t, after, p, q, rfl, quoted, text, nonempty, target⟩
    · refine ⟨before, after, rfl, Prod.ext target ?_⟩
      rw [target, trail_append] at whole
      rw [condition]
      exact List.append_cancel_left whole
    · rw [target] at read
      exact absurd read (tokenize_unclosed legible (fun u mem => plain u (by simp [mem])) quoted
        text nonempty)

/-! ### Joins of twins -/

/-- Joins with the same keywords and akin texts. -/
structure Akin (f : Token → Token) (j k : Join) : Prop where
  keywords : Text.upper j.keywords = Text.upper k.keywords
  target : SqlGrader.Akin f j.targetText k.targetText
  condition : SqlGrader.Akin f (Text.trim j.condition) (Text.trim k.condition)

/-- Texts of joins that are akin as joins. -/
def TextsAkin (f : Token → Token) (a b : Text) : Prop :=
  ∃ x y, ofText? a = some x ∧ ofText? b = some y ∧ x.Akin f y

/-- Texts of joins whose tables are read as equally many tokens. -/
def CutAlike (a b : Text) : Prop :=
  ∀ x y, ofText? a = some x → ofText? b = some y →
    ∃ ts us, tokenize x.targetText = .ok ts ∧ tokenize y.targetText = .ok us ∧
      ts.length = us.length

theorem ofText?_render (all : ∀ m ∈ modifiers, Boundary.isJoinModifier m) (join : j.isWord "JOIN")
    (body : List Token) :
    ofText? (render (modifiers ++ j :: body)) =
      some ⟨render (modifiers ++ [j]), (splitTarget (trail body)).1,
        (splitTarget (trail body)).2⟩ := by
  rw [ofText?, render_join, splitKeywords?_append (noJ_lead all j.spaced) (upper_of_isWord join),
    lead_append]
  rfl

/-- The tokens of a target are those in front of the cut. -/
theorem length_of_target {before : List Token} (legible : Legible before)
    (plain : ∀ t ∈ before, t.Plain) (read : tokenize (Text.trim (trail before)) = .ok ts) :
    ts.length = before.length := by
  rw [trim_trail legible plain, tokenize_render legible] at read
  obtain rfl := Except.ok.inj read
  cases before <;> rfl

/-- Cuts after equally many tokens go through twins at the same place. -/
theorem splitTarget_twin (twin : Twin f body body')
    (read : tokenize (Text.trim (splitTarget (trail body)).1) = .ok ts)
    (read' : tokenize (Text.trim (splitTarget (trail body')).1) = .ok us)
    (len : ts.length = us.length) :
    SqlGrader.Akin f (Text.trim (splitTarget (trail body)).1)
        (Text.trim (splitTarget (trail body')).1) ∧
      SqlGrader.Akin f (Text.trim (splitTarget (trail body)).2)
        (Text.trim (splitTarget (trail body')).2) := by
  obtain ⟨before, after, rfl, cut⟩ := splitTarget_trail twin.left twin.plain_left read
  obtain ⟨before', after', rfl, cut'⟩ := splitTarget_trail twin.right twin.plain_right read'
  obtain ⟨front, back, same, here, there⟩ := twin.split
  rw [cut] at read
  rw [cut'] at read'
  have left := length_of_target here.left here.plain_left read
  have right := length_of_target twin.right.append_left
    (fun u mem => twin.plain_right u (by simp [mem])) read'
  obtain ⟨rfl, rfl⟩ := List.append_inj same (by rw [← here.length_eq, ← left, ← right, len])
  rw [cut, cut', trim_trail here.left here.plain_left, trim_trail here.right here.plain_right,
    trim_trail there.left there.plain_left, trim_trail there.right there.plain_right]
  exact ⟨.of_twin here, .of_twin there⟩

/-- Where only the case of keywords differs, the same cut goes through twins. -/
theorem exists_splitTarget_twin (twin : Twin folded body body')
    (read : tokenize (Text.trim (splitTarget (trail body)).1) = .ok ts) :
    ∃ us, tokenize (Text.trim (splitTarget (trail body')).1) = .ok us ∧ ts.length = us.length := by
  obtain ⟨before, after, rfl, cut⟩ := splitTarget_trail twin.left twin.plain_left read
  obtain ⟨before', after', rfl, front, -⟩ := twin.split
  have same := splitTarget_upper (trail (before ++ after))
  rw [twin.upper_trail, splitTarget_upper, cut] at same
  have cut' : (splitTarget (trail (before' ++ after'))).1 = trail before' := by
    have whole := splitTarget_append (trail (before' ++ after'))
    have len : (splitTarget (trail (before' ++ after'))).1.length = (trail before').length := by
      simpa [Text.upper] using congrArg List.length
        ((congrArg Prod.fst same).trans front.upper_trail)
    rw [trail_append] at whole len ⊢
    exact (List.append_inj whole len).1
  rw [cut] at read
  rw [cut', trim_trail front.right front.plain_right, tokenize_render front.right]
  refine ⟨_, rfl, ?_⟩
  rw [length_of_target front.left front.plain_left read, front.length_eq]
  cases before' <;> rfl

/-- The keywords of one twin are keywords of the other one. -/
theorem exists_keywords_twin (cosmetic : Cosmetic f) (twin : Twin f (modifiers ++ j :: body) us)
    (all : ∀ m ∈ modifiers, Boundary.isJoinModifier m) (join : j.isWord "JOIN") :
    ∃ modifiers' j' body', us = modifiers' ++ j' :: body' ∧
      (∀ m ∈ modifiers', Boundary.isJoinModifier m) ∧ j'.isWord "JOIN" ∧
        Twin f (modifiers ++ [j]) (modifiers' ++ [j']) ∧ Twin f body body' := by
  obtain ⟨modifiers', rest', rfl, front, tail⟩ := twin.split
  obtain ⟨j', body', rfl, here, back⟩ := tail.uncons
  refine ⟨modifiers', j', body', rfl, ?_, ?_, twin.of_within ?_ ?_ ?_, back⟩
  · exact forall_of_map_eq (fun m => by rw [cosmetic.neutral.isJoinModifier]) front.same all
  · rw [← cosmetic.isWord, ← here, cosmetic.isWord]
    exact join
  · exact (List.prefix_append_right_inj modifiers).mpr ⟨body, rfl⟩ |>.isInfix
  · exact (List.prefix_append_right_inj modifiers').mpr ⟨body', rfl⟩ |>.isInfix
  · rw [List.map_append, List.map_append, front.same, List.map_singleton, List.map_singleton, here]

/-- The joins of twins are akin if their tables have equally many tokens. -/
theorem textsAkin_of_twin (cosmetic : Cosmetic f) (twin : Twin f (modifiers ++ j :: body) us)
    (all : ∀ m ∈ modifiers, Boundary.isJoinModifier m) (join : j.isWord "JOIN")
    (alike : CutAlike (render (modifiers ++ j :: body)) (render us)) :
    TextsAkin f (render (modifiers ++ j :: body)) (render us) := by
  obtain ⟨modifiers', j', body', rfl, all', join', keywords, back⟩ :=
    exists_keywords_twin cosmetic twin all join
  have left := ofText?_render all join body
  have right := ofText?_render all' join' body'
  obtain ⟨ts, us, read, read', len⟩ := alike _ _ left right
  obtain ⟨target, condition⟩ := splitTarget_twin back read read' len
  exact ⟨_, _, left, right,
    upper_render_keywords cosmetic keywords (isAnyWord_keywords all join), target, condition⟩

/-- Where only the case of keywords differs, twins are cut alike if the table of one of them can be
read. -/
theorem cutAlike_of_twin (twin : Twin folded (modifiers ++ j :: body) us)
    (all : ∀ m ∈ modifiers, Boundary.isJoinModifier m) (join : j.isWord "JOIN")
    (reads : ∀ x, ofText? (render (modifiers ++ j :: body)) = some x →
      ∃ ts, tokenize x.targetText = .ok ts) :
    CutAlike (render (modifiers ++ j :: body)) (render us) := by
  obtain ⟨modifiers', j', body', rfl, all', join', -, back⟩ :=
    exists_keywords_twin cosmetic_folded twin all join
  intro x y left right
  obtain ⟨ts, read⟩ := reads x left
  obtain rfl := Option.some.inj (left.symm.trans (ofText?_render all join body))
  obtain rfl := Option.some.inj (right.symm.trans (ofText?_render all' join' body'))
  obtain ⟨us, read', len⟩ := exists_splitTarget_twin back read
  exact ⟨ts, us, read, read', len⟩

theorem kind_congr {x y : Join} (keywords : Text.upper x.keywords = Text.upper y.keywords) :
    x.kind = y.kind := by
  rw [kind, kind, ← Text.words_upper, ← Text.words_upper, keywords]

theorem canonical_congr {x y : Join} (cosmetic : Cosmetic f) (akin : x.Akin f y) (s : Scope)
    (tables : TableRef.ofText? x.targetText = TableRef.ofText? y.targetText) :
    x.canonical s = y.canonical s := by
  rw [canonical, canonical, kind_congr akin.keywords, akin.condition.canonical cosmetic s false,
    tables]

end SqlGrader.Join
