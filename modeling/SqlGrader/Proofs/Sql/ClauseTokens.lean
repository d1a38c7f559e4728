import SqlGrader.Proofs.Sql.Wrapped
/-!
# Clauses and fragments as tokens

A list of tokens is *clean* if it is read back from its text and holds white space
inside of quotes only. The clauses of a clean list are texts of stretches of it,
and so is all that is cut out of a clause later: items, conditions, tables. What
readers of texts find in a clean list is therefore found among its tokens.
-/

namespace SqlGrader

/-- The tokens of a text, none if a quote or a comment is left open in it. -/
def tokensOf (t : Text) : List Token :=
  match tokenize t with
  | .ok ts => ts
  | .error _ => []

end SqlGrader

namespace SqlGrader.Token

variable {ts us piece : List Token} {t : Token} {s : Scope} {withAliases : Bool}
  {f : Token → Token}

/-- A list that is read back from its text and holds white space inside of quotes only. -/
structure Clean (ts : List Token) : Prop where
  legible : Legible ts
  plain : ∀ t ∈ ts, t.Plain

namespace Clean

theorem of_isInfix (clean : Clean ts) (part : us <:+: ts) : Clean us :=
  ⟨clean.legible.of_isInfix part, fun t mem => clean.plain t (part.subset mem)⟩

theorem atStart (clean : Clean ts) : Clean (atStart ts) :=
  ⟨clean.legible.atStart, plain_atStart clean.plain⟩

theorem trim_render (clean : Clean ts) : Text.trim (render ts) = render ts :=
  (trimmed_render clean.legible clean.plain).trim

/-- A point is a token of its own. -/
theorem kind_of_isDot (clean : Clean ts) (mem : t ∈ ts) (dot : Scope.isDot t) :
    t.kind = .symbol := by
  obtain ⟨before, after, rfl⟩ := List.append_of_mem mem
  obtain ⟨c, tail, text, reads⟩ := clean.legible.append_right.1
  simp only [Scope.isDot, text, beq_iff_eq] at dot
  obtain ⟨rfl, rfl⟩ := List.cons.inj dot
  rcases Lexeme.read_cases reads with ⟨quote, -⟩ | ⟨mark, -⟩ | ⟨-, unmarked⟩
  · rcases quote with ⟨-, other⟩ | ⟨-, other⟩ <;> cases other
  · rcases mark with ⟨-, other⟩ | ⟨-, other⟩ | ⟨-, other⟩ <;> cases other
  · obtain ⟨tail, same, -, ⟨-, -, more, -⟩ | ⟨-, start, -⟩ | ⟨symbol, -⟩⟩ :=
      Lexeme.plain_cases unmarked
    · rw [text] at same
      exact absurd (List.cons.inj same).2.symm (more rfl)
    · exact absurd start (by decide)
    · exact symbol

end Clean

/-! ### Statements -/

theorem text_within_of_scan {b : Bool} {sql : Text} (read : Lexer.scan b sql = .ok ts) :
    ∀ t ∈ ts, t.text <:+: sql := by
  fun_induction Lexer.scan b sql generalizing ts with
  | case1 =>
      obtain rfl := Except.ok.inj read
      simp
  | case2 spaced c cs gap rest found ih =>
      obtain ⟨whole, -⟩ := Lexeme.read_parts (by rw [found]; rfl)
      intro t mem
      rw [whole]
      exact (ih read t mem).trans (List.suffix_append _ _).isInfix
  | case3 spaced c cs kind text rest found ih =>
      obtain ⟨us, next, rfl⟩ := exists_of_map_eq_ok read
      obtain ⟨whole, -⟩ := Lexeme.read_parts (by rw [found]; rfl)
      rw [whole]
      intro t mem
      rcases List.mem_cons.mp mem with rfl | mem
      · exact (List.prefix_append _ _).isInfix
      · exact (ih next t mem).trans (List.suffix_append _ _).isInfix
  | case4 spaced c cs what found => cases read

/-! ### What does not see the gap before the first token -/

theorem map_unspaced_atStart (ts : List Token) : (atStart ts).map unspaced = ts.map unspaced := by
  cases ts <;> rfl

theorem canonicalTokens_atStart (s : Scope) (withAliases : Bool) (ts : List Token) :
    s.canonicalTokens withAliases (atStart ts) = s.canonicalTokens withAliases ts := by
  rw [← cosmetic_unspaced.canonicalTokens, map_unspaced_atStart, cosmetic_unspaced.canonicalTokens]

theorem tokensOf_render (legible : Legible ts) : tokensOf (render ts) = atStart ts := by
  rw [tokensOf, tokenize_render legible]

/-! ### Items and conditions -/

theorem items_render (legible : Legible ts) :
    Items.ofText (render ts) = (splitTopLevel Items.isComma (atStart ts)).map render := by
  rw [Items.ofText, tokenize_render legible]

theorem conditions_render (legible : Legible ts) :
    Conditions.ofText (render ts) = (Conditions.split (atStart ts)).map render := by
  rw [Conditions.ofText, tokenize_render legible]

theorem canonical_render (s : Scope) (withAliases : Bool) (legible : Legible ts) :
    s.canonical withAliases (render ts) = s.canonicalTokens withAliases ts := by
  rw [Scope.canonical, tokenize_render legible]
  exact canonicalTokens_atStart s withAliases ts

theorem canonicalItems_render (s : Scope) (legible : Legible ts) :
    (Items.ofText (render ts)).map (s.canonical true) =
      (splitTopLevel Items.isComma (atStart ts)).map (s.canonicalTokens true) := by
  rw [items_render legible, List.map_map]
  refine List.map_congr_left fun piece mem => ?_
  exact canonical_render s true (legible.atStart.of_isInfix (splitTopLevelWith_within mem))

theorem canonicalConditions_render (s : Scope) (withAliases : Bool) (clean : Clean ts) :
    ((Conditions.ofText (render ts)).map fun t =>
        s.canonical withAliases (Statement.withoutOuterParens t)) =
      (Conditions.split (atStart ts)).map fun piece =>
        s.canonicalTokens withAliases (unwrapped piece) := by
  rw [conditions_render clean.legible, List.map_map]
  refine List.map_congr_left fun piece mem => ?_
  have inside := clean.atStart.of_isInfix (splitTopLevelWith_within mem)
  show s.canonical withAliases (Statement.withoutOuterParens (render piece)) = _
  rw [withoutOuterParens_render inside.legible inside.plain]
  exact canonical_render s withAliases (inside.of_isInfix (unwrapped_within piece)).legible

/-! ### Projection items and tables -/

/-- The item that a list of tokens is. -/
def itemOf (s : Scope) (ts : List Token) : ProjectionItem :=
  ⟨s.canonicalTokens false (Alias.splitEnd ts).1, (Alias.splitEnd ts).2⟩

theorem item_render (legible : Legible ts) :
    ProjectionItem.ofText s (render ts) = itemOf s (atStart ts) := by
  rw [ProjectionItem.ofText, tokenize_render legible]
  rfl

/-- The table that a list of tokens names. -/
def tableOf (ts : List Token) : TableRef :=
  ⟨TableRef.nameOf (Alias.splitEnd ts).1, (Alias.splitEnd ts).2⟩

theorem table_render (legible : Legible ts) :
    TableRef.ofText? (render ts) = if ts = [] then none else some (tableOf (atStart ts)) := by
  rw [TableRef.ofText?, tokenize_render legible]
  cases ts <;> rfl

/-- The tokens of the items between commas, one by one. -/
def itemTokens (ts : List Token) : List (List Token) :=
  (splitTopLevel Items.isComma (atStart ts)).map atStart

theorem of_mem_itemTokens (mem : piece ∈ itemTokens ts) :
    ∃ part, part <:+: atStart ts ∧ piece = atStart part := by
  obtain ⟨part, inside, rfl⟩ := List.mem_map.mp mem
  exact ⟨part, splitTopLevelWith_within inside, rfl⟩

theorem map_tokensOf_items (clean : Clean ts) :
    (Items.ofText (render ts)).map tokensOf = itemTokens ts := by
  rw [items_render clean.legible, List.map_map, itemTokens]
  exact List.map_congr_left fun piece mem =>
    tokensOf_render (clean.atStart.of_isInfix (splitTopLevelWith_within mem)).legible

theorem tables_render (legible : Legible ts) :
    (Items.ofText (render ts)).filterMap TableRef.ofText? = (itemTokens ts).map tableOf := by
  rw [items_render legible, List.filterMap_map, itemTokens, List.map_map,
    ← List.filterMap_eq_map]
  refine List.filterMap_congr fun piece mem => ?_
  have nonempty : piece ≠ [] := by
    have counted := (List.mem_filter.mp mem).2
    simpa using counted
  show TableRef.ofText? (render piece) = _
  rw [table_render (legible.atStart.of_isInfix (splitTopLevelWith_within mem)), if_neg nonempty]
  rfl

/-! ### Projections -/

/-- Whether a word with a gap after it stands at the start. -/
def startsWith (w : String) : List Token → Bool
  | t :: u :: _ => t.isWord w && u.spaced
  | _ => false

/-- What is left after a first word is the text of the other tokens. -/
theorem afterWord?_eq {w : String} (capitals : ∀ c ∈ w.toList, c.isUpper) (nonempty : w.toList ≠ [])
    (clean : Clean ts) :
    ProjectionItem.afterWord? w (render ts) =
      if startsWith w ts then some (render ts.tail) else none := by
  split
  next starts =>
    match ts, starts with
    | t :: u :: us, starts =>
      have rest : Clean (u :: us) := clean.of_isInfix (List.suffix_cons t (u :: us)).isInfix
      rw [startsWith, Bool.and_eq_true] at starts
      exact afterWord?_render capitals rest.legible rest.plain starts.1 starts.2
  next other =>
    refine Option.eq_none_iff_forall_not_mem.mpr fun rest found => other ?_
    obtain ⟨t, u, us, rfl, word, spaced, -⟩ :=
      exists_of_afterWord? capitals nonempty clean.legible clean.plain found
    simp [startsWith, word, spaced]

/-- The tokens without a `DISTINCT` or an `ALL` with a gap after it at the start. -/
def selected (ts : List Token) : List Token :=
  if startsWith "DISTINCT" ts || startsWith "ALL" ts then ts.tail else ts

theorem selected_isSuffix (ts : List Token) : selected ts <:+ ts := by
  unfold selected
  split
  · exact List.tail_suffix ts
  · exact List.suffix_rfl

/-- The items of a projection without the word that it starts with. -/
def itemTexts (projection : Text) : List Text :=
  let t := Text.trim projection
  Items.ofText (((ProjectionItem.afterWord? "DISTINCT" t).or
    (ProjectionItem.afterWord? "ALL" t)).getD t)

theorem itemTexts_render (clean : Clean ts) :
    itemTexts (render ts) = Items.ofText (render (selected ts)) := by
  rw [itemTexts, clean.trim_render, afterWord?_eq (by simp) (by decide) clean,
    afterWord?_eq (by simp) (by decide) clean, selected]
  cases startsWith "DISTINCT" ts <;> cases startsWith "ALL" ts <;> rfl

/-- The items of a projection, the one for `DISTINCT` included. -/
theorem projection_render (s : Scope) (clean : Clean ts) :
    ProjectionItem.ofProjection s (render ts) =
      (if startsWith "DISTINCT" ts then [⟨"DISTINCT".toList, none⟩] else []) ++
        (itemTokens (selected ts)).map (itemOf s) := by
  have rest := clean.of_isInfix (selected_isSuffix ts).isInfix
  have items : (itemTexts (render ts)).map (ProjectionItem.ofText s) =
      (itemTokens (selected ts)).map (itemOf s) := by
    rw [itemTexts_render clean, items_render rest.legible, List.map_map, itemTokens, List.map_map]
    refine List.map_congr_left fun piece mem => ?_
    exact item_render (rest.atStart.of_isInfix (splitTopLevelWith_within mem)).legible
  rw [← items, ProjectionItem.ofProjection, itemTexts, clean.trim_render,
    afterWord?_eq (by simp) (by decide) clean, afterWord?_eq (by simp) (by decide) clean]
  cases startsWith "DISTINCT" ts <;> cases startsWith "ALL" ts <;> rfl

end SqlGrader.Token

namespace SqlGrader.Section

open Token

variable {ts : List Token} {ss : List Section} {s : Section}

/-- The tokens of the first section of a kind that has any. -/
def clauseTokens (kind : ClauseKind) (ss : List Section) : List Token :=
  match ss.find? fun s => s.boundary.slot == .clause kind && !s.content.isEmpty with
  | some s => s.content
  | none => []

/-- The tokens of the joins, one by one. -/
def joinTokens (ss : List Section) : List (List Token) :=
  (ss.filter fun s => s.boundary.slot == .clause .joins && !s.content.isEmpty).map content

theorem counts_map (f : Token → Token) (kind : ClauseKind) :
    (fun s : Section => s.boundary.slot == .clause kind && !s.content.isEmpty) ∘ map f =
      fun s => s.boundary.slot == .clause kind && !s.content.isEmpty := by
  funext s
  have boundary : (s.map f).boundary = s.boundary := rfl
  simp [content_map, boundary]

theorem clauseTokens_map (f : Token → Token) (kind : ClauseKind) (ss : List Section) :
    clauseTokens kind (ss.map (map f)) = (clauseTokens kind ss).map f := by
  rw [clauseTokens, clauseTokens, List.find?_map, counts_map]
  cases ss.find? fun s => s.boundary.slot == .clause kind && !s.content.isEmpty with
  | none => rfl
  | some s => exact content_map f s

theorem joinTokens_map (f : Token → Token) (ss : List Section) :
    joinTokens (ss.map (map f)) = (joinTokens ss).map (List.map f) := by
  rw [joinTokens, joinTokens, List.filter_map, counts_map, List.map_map, List.map_map]
  exact List.map_congr_left fun s _ => content_map f s

theorem clauseTokens_within (kind : ClauseKind) (ts : List Token) :
    clauseTokens kind (ofTokens ts) <:+: ts := by
  unfold clauseTokens
  split
  next s found => exact content_within (List.mem_of_find?_eq_some found)
  next => exact List.nil_infix

/-- The tokens of a join are its keywords and what they stand before. -/
theorem of_mem_joinTokens {join : List Token} (mem : join ∈ joinTokens (ofTokens ts)) :
    join <:+: ts ∧ ∃ modifiers j body, join = modifiers ++ j :: body ∧
      (∀ m ∈ modifiers, Boundary.isJoinModifier m) ∧ j.isWord "JOIN" := by
  obtain ⟨s, here, rfl⟩ := List.mem_map.mp mem
  obtain ⟨inside, counts⟩ := List.mem_filter.mp here
  rw [Bool.and_eq_true, beq_iff_eq] at counts
  exact ⟨content_within inside, splitFrom_joins none 0 ts inside counts.1⟩

/-- A section opens with words, so a blank statement has none. -/
theorem ofTokens_of_blank {sql : Text} (read : tokenize sql = .ok ts)
    (blank : Text.isAllBlank sql) : ofTokens ts = [] := by
  refine List.eq_nil_iff_forall_not_mem.mpr fun s mem => ?_
  obtain ⟨outer, words⟩ := splitFrom_opened none 0 ts s mem
  obtain ⟨t, here⟩ := List.exists_mem_of_ne_nil _ words.ne_nil
  obtain ⟨w, known, word⟩ := words.known_words t here
  have letters : Boundary.openingWords.all fun w =>
      !w.toList.isEmpty && w.toList.all (!Text.isBlank ·) := by
    decide
  have lettersOf := List.all_eq_true.mp letters w known
  rw [Bool.and_eq_true] at lettersOf
  have nonempty : t.text ≠ [] := by
    intro none
    rw [← upper_of_isWord word, none] at lettersOf
    exact absurd lettersOf.1 (by decide)
  obtain ⟨c, tail, text⟩ := List.exists_cons_of_ne_nil nonempty
  have inside : t ∈ ts :=
    ((splitFrom_within none 0 ts).2 s mem).subset (List.mem_append_left _ here)
  have within := text_within_of_scan (scan_of_tokenize read) t inside
  have first : c ∈ t.text := by simp [text]
  exact visible_of_isWord word lettersOf.2 c first
    (List.all_eq_true.mp blank c (within.subset first))

theorem isEmpty_render (legible : Legible ts) : (render ts).isEmpty = ts.isEmpty := by
  rw [Bool.eq_iff_iff, List.isEmpty_iff, List.isEmpty_iff, render_eq_nil legible]

theorem clauseTokens_cons (kind : ClauseKind) (s : Section) (ss : List Section) :
    clauseTokens kind (s :: ss) =
      if s.boundary.slot == .clause kind && !s.content.isEmpty then s.content
      else clauseTokens kind ss := by
  rw [clauseTokens, List.find?_cons]
  cases s.boundary.slot == .clause kind && !s.content.isEmpty <;> rfl

theorem firstOf_cons (kind : ClauseKind) (p : ClauseKind × Text) (ps : List (ClauseKind × Text)) :
    ClauseSet.firstOf kind (p :: ps) =
      if p.1 == kind && !p.2.isEmpty then p.2 else ClauseSet.firstOf kind ps := by
  rw [ClauseSet.firstOf, List.find?_cons]
  cases p.1 == kind && !p.2.isEmpty <;> rfl

theorem slot_eq (k kind : ClauseKind) : (Slot.clause k == Slot.clause kind) = (k == kind) := by
  rw [Bool.eq_iff_iff]
  simp

/-- The first text of a kind is that of the first section of the kind. -/
theorem firstOf_parts (legible : ∀ s ∈ ss, Legible s.content) (kind : ClauseKind) :
    ClauseSet.firstOf kind (ss.filterMap part?) = render (clauseTokens kind ss) := by
  induction ss with
  | nil => rfl
  | cons s ss ih =>
      rw [List.forall_mem_cons] at legible
      have rest := ih legible.2
      rw [List.filterMap_cons, clauseTokens_cons, part?]
      cases slot : s.boundary.slot with
      | unscored =>
          have other : (Slot.unscored == Slot.clause kind) = false := rfl
          simp [other, rest]
      | clause k =>
          simp only [firstOf_cons, slot_eq, isEmpty_render legible.1, rest]
          split <;> rfl

theorem joins_parts (legible : ∀ s ∈ ss, Legible s.content) :
    ((ss.filterMap part?).filter fun p => p.1 == .joins && !p.2.isEmpty).map (·.2) =
      (joinTokens ss).map render := by
  induction ss with
  | nil => rfl
  | cons s ss ih =>
      rw [List.forall_mem_cons] at legible
      have rest := ih legible.2
      unfold joinTokens at rest ⊢
      rw [List.filterMap_cons, List.filter_cons, part?]
      cases slot : s.boundary.slot with
      | unscored =>
          have other : (Slot.unscored == Slot.clause .joins) = false := rfl
          simp only [other, Bool.false_and, Bool.false_eq_true, if_false, rest]
      | clause k =>
          simp only [List.filter_cons, slot_eq, isEmpty_render legible.1]
          split <;> simp [rest]

end SqlGrader.Section

namespace SqlGrader.ClauseSet

open Token Section

variable {ts : List Token}

/-- A clause is the text of the tokens of its section. -/
theorem text_ofTokens (legible : Legible ts) (kind : ClauseKind) (noJoins : kind ≠ .joins) :
    (ofTokens ts).text kind = render (clauseTokens kind (Section.ofTokens ts)) := by
  rw [← firstOf_parts fun s mem => legible.of_isInfix (content_within mem)]
  cases kind with
  | joins => exact absurd rfl noJoins
  | _ => rfl

theorem joins_ofTokens (legible : Legible ts) :
    (ofTokens ts).joins = (joinTokens (Section.ofTokens ts)).map render :=
  joins_parts fun _ mem => legible.of_isInfix (content_within mem)

/-- A statement with a clause is not blank. -/
theorem not_isAllBlank {sql : Text} (read : tokenize sql = .ok ts)
    (core : (ofTokens ts).hasCore) : Text.isAllBlank sql = false := by
  refine Bool.eq_false_iff.mpr fun blank => ?_
  rw [ofTokens, Section.ofTokens_of_blank read blank] at core
  exact absurd core (by decide)

end SqlGrader.ClauseSet
