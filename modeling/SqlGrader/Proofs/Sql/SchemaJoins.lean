import SqlGrader.Proofs.Sql.SchemaReferences
/-!
# Joins with the default schema

The target of a join is cut out of its text and trimmed before it is read. No condition starts in
front of the name, so the same text follows the name with the schema and without it, and the target
is read to the same tokens from there on. An alias in quotes that a condition seems to start in
leaves a quote open in both.
-/

namespace SqlGrader.Join

open Token Lexer

variable {schema point name t : Token} {ts us aliased condition : List Token} {a b y r : Text}

/-! ### Where the target is cut -/

/-- A cut before the place where a condition starts is one at a space. -/
theorem splitTarget_before (ends : b = [] ∨ startsCondition b) :
    (splitTarget (a ++ b)).1 = a ∨ ∃ q, a = (splitTarget (a ++ b)).1 ++ ' ' :: q := by
  induction a with
  | nil =>
      refine .inl ?_
      cases b with
      | nil => rfl
      | cons d b => rw [List.nil_append, splitTarget, if_pos (by simpa using ends)]
  | cons c a ih =>
      rw [List.cons_append, splitTarget]
      split
      next starts =>
        obtain rfl := eq_space_of_startsCondition starts
        exact .inr ⟨a, rfl⟩
      next =>
        rcases ih with same | ⟨q, same⟩
        · exact .inl (congrArg (List.cons c) same)
        · exact .inr ⟨q, congrArg (List.cons c) same⟩

/-- Whether the token starts no condition and holds no white space. -/
def IsSolid (t : Token) : Prop := isMark t = false ∧ ∀ c ∈ t.text, ¬ Text.isBlank c

/-- No condition starts in front of solid tokens. -/
theorem splitTarget_trail_append (legible : Legible (ts ++ us)) (solid : ∀ t ∈ ts, IsSolid t) :
    splitTarget (trail (ts ++ us)) =
      (trail ts ++ (splitTarget (trail us)).1, (splitTarget (trail us)).2) := by
  rw [trail_append]
  refine splitTarget_append_of_uncut ((uncut_trail legible).mpr ?_)
  rintro before t after rfl
  obtain ⟨noMark, free⟩ := solid t (by simp)
  rw [isMark] at noMark
  refine ⟨by simp [opensCondition, noMark], uncut_of_ne_space fun c mem => ?_⟩
  rintro rfl
  exact free ' ' mem (by decide)

/-- Tokens with no white space at their ends are trimmed on the left. -/
theorem trim_trail_append (nonempty : ts ≠ [])
    (neat : ∀ t ∈ ts, t.text ≠ [] ∧ Text.Trimmed t.text) (y : Text) :
    Text.trim (trail ts ++ y) = render ts ++ Text.trimEnd y := by
  have trimmed := trimmed_render_of_forall neat
  obtain ⟨t, ts, rfl⟩ := List.exists_cons_of_ne_nil nonempty
  obtain ⟨c, cs, text⟩ := List.exists_cons_of_ne_nil (neat t (by simp)).1
  have head : ∀ d ∈ (render (t :: ts) ++ y).head?, ¬ Text.isBlank d := by
    have first := trimmed.head
    simp only [render_cons, text, List.cons_append, List.head?_cons] at first ⊢
    exact first
  have whole : Text.trim (render (t :: ts) ++ y) = render (t :: ts) ++ Text.trimEnd y := by
    rw [Text.trim, Text.trimStart_eq_self head, Text.trimEnd_append trimmed.last]
  rw [trail_cons, spacedText]
  split
  · rw [List.cons_append, List.cons_append, Text.trim_space_cons]
    exact whole
  · exact whole

/-! ### How the target is read -/

/-- What is read of a text that starts with these tokens. -/
theorem ofText?_render_append (legible : Legible (ts ++ us)) (nonempty : ts ≠ [])
    (repeats : Echo (trail us) y) :
    TableRef.ofText? (render ts ++ y) =
      match scan false y with
      | .ok ys => some (tableOf (marked false ts ++ ys))
      | .error _ => none := by
  have read := scan_render_echo legible nonempty repeats false
  have started := marked_ne_nil nonempty false
  rw [TableRef.ofText?, tokenize, read]
  obtain ⟨u, rest, same⟩ := List.exists_cons_of_ne_nil started
  cases scan false y with
  | error e => rfl
  | ok ys =>
      rw [same]
      rfl

/-- A text repeats what is left of its start when that is trimmed. -/
theorem echo_trimEnd {z : Text} (same : a = y ++ z) : Echo a (Text.trimEnd y) := by
  obtain ⟨rest, whole⟩ := (List.rdropWhile_prefix Text.isBlank y).trans ⟨z, same.symm⟩
  rw [← whole]
  exact .of_isPrefix _ _

theorem mem_trail {c : Char} (mem : c ∈ trail ts) : c = ' ' ∨ ∃ t ∈ ts, c ∈ t.text := by
  obtain ⟨t, inside, here⟩ := List.mem_flatMap.mp mem
  unfold spacedText at here
  split at here
  · exact (List.mem_cons.mp here).imp_right fun here => ⟨t, inside, here⟩
  · exact .inr ⟨t, inside, here⟩

/-- Words hold white space in the first place only. -/
theorem plain_of_word (reads : t.ReadsBefore r) (word : t.kind = .word)
    (visible : ∀ c ∈ t.text.head?, ¬ Text.isBlank c) : ∀ c ∈ t.text, ¬ Text.isBlank c := by
  obtain ⟨c, tail, text, here⟩ := reads
  rw [word, text, Lexeme.read_eq_word] at here
  rw [text] at visible ⊢
  refine List.forall_mem_cons.mpr ⟨visible c rfl, fun d mem => ?_⟩
  exact not_isBlank_of_isNamePart (here.2.1 d mem)

/-- The table that a target names is told by the tokens at its start and what is read after them. -/
theorem target_trail_append (legible : Legible (ts ++ us)) (nonempty : ts ≠ [])
    (solid : ∀ t ∈ ts, IsSolid t) :
    TableRef.ofText? (Text.trim (splitTarget (trail (ts ++ us))).1) =
      match scan false (Text.trimEnd (splitTarget (trail us)).1) with
      | .ok ys => some (tableOf (marked false ts ++ ys))
      | .error _ => none := by
  have neat := legible.append_left.neat fun t mem => .inr (solid t mem).2
  have repeats := echo_trimEnd (splitTarget_append (trail us)).symm
  rw [splitTarget_trail_append legible solid, trim_trail_append nonempty neat,
    ofText?_render_append legible nonempty repeats]

theorem IsSolid.of_isPlainName (plain : name.IsPlainName) (reads : name.ReadsBefore r)
    (visible : ∀ c ∈ name.text.head?, ¬ Text.isBlank c) : IsSolid name := by
  refine ⟨?_, plain_of_word reads plain.1 visible⟩
  simp [isMark, isAnyWord, plain.not_isWord (w := "ON") (by decide),
    plain.not_isWord (w := "USING") (by decide)]

theorem IsSolid.of_isSchema (isSchema : IsSchema schema point) :
    IsSolid schema ∧ IsSolid point := by
  refine ⟨⟨?_, visible_of_isWord isSchema.word (by decide)⟩, ?_, ?_⟩
  · rw [isMark, isAnyWord_eq isSchema.word]
    decide
  · exact isAnyWord_of_kind_ne (by simp [isSchema.symbol]) _
  · rw [isSchema.text, List.forall_mem_singleton]
    decide

/-! ### The text behind the name -/

/-- No point comes before an alias if the text behind the name has none. -/
theorem free_of_scan (own : '.' ∉ name.text) (free : '.' ∉ y)
    (read : scan false (Text.trimEnd y) = .ok ts) :
    ∀ u ∈ (Alias.splitEnd (name :: ts)).1, '.' ∉ u.text := by
  have all : ∀ u ∈ name :: ts, '.' ∉ u.text := by
    refine List.forall_mem_cons.mpr ⟨own, fun u mem point => free ?_⟩
    exact (List.rdropWhile_prefix _ _).subset ((text_within_of_scan read u mem).subset point)
  exact fun u mem => all u ((Alias.splitEnd_isPrefix _).subset mem)

theorem free_trail_of_words (legible : Legible ts) (words : ∀ t ∈ ts, t.kind = .word) :
    '.' ∉ trail ts := by
  intro point
  obtain space | ⟨t, mem, here⟩ := mem_trail point
  · exact absurd space (by decide)
  · exact free_of_words legible words t mem here

/-- What stands behind the name and before a cut inside of quotes is not read. -/
theorem scan_unclosed {before after : List Token} {u : Token} {p q : Text}
    (legible : Legible (name :: (before ++ u :: after))) (plain : ∀ v ∈ name :: before, v.Plain)
    (quoted : u.kind = .stringLiteral ∨ u.kind = .quotedName) (text : u.text = p ++ ' ' :: q)
    (nonempty : p ≠ []) : scan false (Text.trimEnd (trail before ++ (gap u ++ p))) ≠ .ok ts := by
  intro read
  have whole : trail (before ++ u :: after) =
      (trail before ++ (gap u ++ p)) ++ (' ' :: q ++ trail after) := by
    simp only [trail_append, trail_cons, spacedText_eq, text, List.append_assoc]
  have first : Legible ([name] ++ (before ++ u :: after)) := legible
  have closed := scan_render_echo first (List.cons_ne_nil name []) (echo_trimEnd whole) false
  have target : Text.trim (trail (name :: before) ++ (gap u ++ p)) =
      render [name] ++ Text.trimEnd (trail before ++ (gap u ++ p)) := by
    have lead : trail (name :: before) = trail [name] ++ trail before := trail_append [name] before
    have neat := first.append_left.neat (List.forall_mem_singleton.mpr (plain name (by simp)))
    rw [lead, List.append_assoc, trim_trail_append (List.cons_ne_nil name []) neat]
  have unclosed : tokenize (Text.trim (trail (name :: before) ++ (gap u ++ p))) ≠
      .ok (marked false [name] ++ ts) := tokenize_unclosed legible plain quoted text nonempty
  rw [target, tokenize, closed, read] at unclosed
  exact unclosed rfl

/-- A quoted alias is read as a whole, or what is left of it leaves its quote open. -/
theorem free_of_quoted {front : List Token} {a : Token}
    (legible : Legible (name :: (front ++ [a]))) (plain : name.Plain)
    (word : name.kind = .word) (as : ∀ u ∈ front, u.isWord "AS") (quoted : a.kind = .quotedName)
    (alone : (Alias.splitEnd (name :: (front ++ [a]))).1 = [name])
    (cut : y = trail (front ++ [a]) ∨ ∃ q, trail (front ++ [a]) = y ++ ' ' :: q)
    (read : scan false (Text.trimEnd y) = .ok ts) :
    ∀ u ∈ (Alias.splitEnd (name :: ts)).1, '.' ∉ u.text := by
  have own := legible.1.free_of_word word
  have plainAll : ∀ u ∈ front ++ [a], u.Plain := by
    intro u mem
    rcases List.mem_append.mp mem with inside | last
    · exact .inr (visible_of_isWord (as u inside) (by decide))
    · rw [List.mem_singleton.mp last]
      exact .inl (.inr quoted)
  rcases cut with rfl | ⟨q, same⟩
  · have reads := legible.2.append_right.1
    have last : ∀ c ∈ (trail (front ++ [a])).getLast?, ¬ Text.isBlank c := by
      rw [getLast?_trail_append front reads.text_ne_nil]
      exact (reads.trimmed (.inl (.inr quoted))).last
    rw [Text.trimEnd, Text.dropEndWhile_eq_self last, scan_trail legible.2] at read
    obtain rfl := Except.ok.inj read
    rw [alone]
    simpa using own
  · rcases trail_eq_append_space legible.2 plainAll same with
      ⟨before, after, parts, rfl⟩ | ⟨before, u, after, p, r, parts, kind, text, nonempty, rfl⟩
    · -- The cut comes before the alias.
      have later : after ≠ [] := by
        rintro rfl
        rw [parts, List.append_nil, List.self_eq_append_right] at same
        cases same
      have within : before <+: front := by
        obtain ⟨us, last, rfl⟩ := (List.eq_nil_or_concat' after).resolve_left later
        rw [← List.append_assoc] at parts
        exact ⟨us, (List.append_inj_left' parts rfl).symm⟩
      have words : ∀ u ∈ before, u.kind = .word := fun u mem =>
        kind_of_isWord (as u (within.subset mem))
      exact free_of_scan own (free_trail_of_words (legible.2.of_isInfix
        (within.trans (List.prefix_append _ _)).isInfix) words) read
    · rw [parts] at legible plainAll
      refine absurd read (scan_unclosed legible ?_ kind text nonempty)
      exact List.forall_mem_cons.mpr
        ⟨plain, fun v mem => plainAll v (List.mem_append_left _ mem)⟩

section

variable (part : IsAliasPart aliased) (plain : name.IsPlainName)
  (visible : ∀ c ∈ name.text.head?, ¬ Text.isBlank c)
  (legible : Legible (name :: (aliased ++ condition)))
  (ends : trail condition = [] ∨ startsCondition (trail condition))
include part plain visible legible ends

/-- What is read behind the name leaves no point before an alias. -/
theorem free_of_target
    (read : scan false (Text.trimEnd (splitTarget (trail (aliased ++ condition))).1) = .ok ts) :
    ∀ u ∈ (Alias.splitEnd (name :: ts)).1, '.' ∉ u.text := by
  have cut := splitTarget_before (a := trail aliased) ends
  rw [trail_append] at read
  generalize (splitTarget (trail aliased ++ trail condition)).1 = z at read cut
  rcases part.words_or_quoted plain with all | ⟨front, a, rfl, as, quoted, alone⟩
  · have noPoint := free_trail_of_words legible.2.append_left all
    refine free_of_scan (legible.1.free_of_word plain.1) (fun point => noPoint ?_) read
    rcases cut with same | ⟨q, same⟩
    · exact same ▸ point
    · rw [same]
      exact List.mem_append_left _ point
  · have whole : Legible ((name :: (front ++ [a])) ++ condition) := legible
    exact free_of_quoted whole.append_left (.inr (plain_of_word legible.1 plain.1 visible)) plain.1
      as quoted alone cut read

/-- The table that is joined is the same with the default schema, and so is the condition. -/
theorem splitTarget_schema {gap : Bool} (isSchema : IsSchema schema point)
    (legible' :
      Legible (schema :: point :: { name with spaced := gap } :: (aliased ++ condition))) :
    TableRef.ofText? (Text.trim (splitTarget (trail
        (schema :: point :: { name with spaced := gap } :: (aliased ++ condition)))).1) =
      TableRef.ofText? (Text.trim (splitTarget (trail (name :: (aliased ++ condition)))).1) ∧
    (splitTarget (trail
        (schema :: point :: { name with spaced := gap } :: (aliased ++ condition)))).2 =
      (splitTarget (trail (name :: (aliased ++ condition)))).2 := by
  have solid : ∀ t ∈ [name], IsSolid t := by
    rw [List.forall_mem_singleton]
    exact .of_isPlainName plain legible.1 visible
  have solid' : ∀ t ∈ [schema, point, { name with spaced := gap }], IsSolid t := by
    obtain ⟨first, second⟩ := IsSolid.of_isSchema isSchema
    simp only [List.forall_mem_cons, List.not_mem_nil, false_implies, implies_true, and_true]
    exact ⟨first, second, solid name (by simp)⟩
  have parts : Legible ([name] ++ (aliased ++ condition)) := legible
  have parts' : Legible ([schema, point, { name with spaced := gap }] ++ (aliased ++ condition)) :=
    legible'
  have left := target_trail_append parts (List.cons_ne_nil _ _) solid
  have right := target_trail_append parts' (List.cons_ne_nil _ _) solid'
  refine ⟨?_, ?_⟩
  · refine right.trans (Eq.trans ?_ left.symm)
    cases read : scan false (Text.trimEnd (splitTarget (trail (aliased ++ condition))).1) with
    | error e => rfl
    | ok ys =>
        have free := free_of_target part plain visible legible ends read
        have same := tableOf_schema isSchema plain.1 (plain.not_isWord (by decide))
          legible.1.text_ne_nil free
        rw [← tableOf_map_unspaced, ← tableOf_map_unspaced (name :: ys)] at same
        refine congrArg some ?_
        rw [← tableOf_map_unspaced, ← tableOf_map_unspaced (marked false [name] ++ ys)]
        exact same
  · exact (congrArg Prod.snd (splitTarget_trail_append parts' solid')).trans
      (congrArg Prod.snd (splitTarget_trail_append parts solid)).symm

end

/-! ### Joins with the schema -/

/-- The second list is what follows the keywords of a join, a name with its alias and a condition
that is set off, with the default schema before the name. The first list is the same without it. -/
inductive TargetWritten : List Token → List Token → Prop
  | before {target target' condition : List Token} (written : SchemaWritten target target')
      (visible : ∀ t ∈ target.head?, ∀ c ∈ t.text.head?, ¬ Text.isBlank c)
      (ends : EndsTarget target condition) (setOff : IsSetOff condition) :
      TargetWritten (target ++ condition) (target' ++ condition)

/-- Two joins of one kind of the same table, with one condition. -/
structure ReadsSame (x y : Join) : Prop where
  keywords : y.keywords = x.keywords
  table : TableRef.ofText? y.targetText = TableRef.ofText? x.targetText
  condition : y.condition = x.condition

theorem ReadsSame.canonical {x y : Join} (same : ReadsSame x y) (s : Scope) :
    y.canonical s = x.canonical s := by
  simp only [Join.canonical, kind, same.keywords, same.table, same.condition]

/-- A join is read to the same parts with the schema. -/
theorem TargetWritten.readsSame {keywords body body' : List Token}
    (written : TargetWritten body body') (isKeywords : AreKeywords keywords)
    (legible : Legible (keywords ++ body)) (legible' : Legible (keywords ++ body')) :
    ∃ x y, ofText? (render (keywords ++ body)) = some x ∧
      ofText? (render (keywords ++ body')) = some y ∧ ReadsSame x y := by
  obtain ⟨modifiers, j, rfl, all, join⟩ := isKeywords
  obtain ⟨⟨gap, isSchema, plain, part⟩, visible, ends, setOff⟩ := written
  have starts := startsCondition_of_isSetOff legible.append_right.append_right ends setOff
  obtain ⟨table, condition⟩ := splitTarget_schema part plain (visible _ rfl) legible.append_right
    starts isSchema legible'.append_right
  rw [← List.append_cons, ← List.append_cons, ofText?_render all join, ofText?_render all join]
  exact ⟨_, _, rfl, rfl, rfl, table, condition⟩

end SqlGrader.Join
