import SqlGrader.Proofs.Sql.Pieces
import SqlGrader.Proofs.Sql.SectionTexts
/-!
# Statements assembled from their parts

A statement is written from a projection, a source, joins and further clauses, each with its
keywords in front. Its clauses are these parts again as long as no part holds a `FROM` outside of
parentheses: that of the comparison `IS DISTINCT FROM` is read as the keyword of a source, and cuts
the part in two.
-/

namespace SqlGrader

open Token

/-- The words that introduce a part of a statement. -/
inductive Introduces : ClauseKind → List String → Prop
  | projection : Introduces .projection ["SELECT"]
  | source : Introduces .source ["FROM"]
  | joins {modifiers : List String} (known : ∀ m ∈ modifiers, m ∈ Boundary.joinModifiers) :
      Introduces .joins (modifiers ++ ["JOIN"])
  | filter : Introduces .filter ["WHERE"]
  | grouping : Introduces .grouping ["GROUP", "BY"]
  | having : Introduces .having ["HAVING"]
  | ordering : Introduces .ordering ["ORDER", "BY"]
  | limit : Introduces .limit ["LIMIT"]

/-- Whether `IS DISTINCT` or `IS NOT DISTINCT` stands at the end. -/
def endsInDistinct (before : List Token) : Bool :=
  match before.reverse with
  | d :: i :: rest =>
    d.isWord "DISTINCT" &&
      (i.isWord "IS" || i.isWord "NOT" && rest.head?.any (·.isWord "IS"))
  | _ => false

/-- Whether a token, between the tokens before and after it, ends the query, modifies a join or is a
clause keyword. The `FROM` of a comparison is none. -/
def delimits (before : List Token) (t : Token) (after : List Token) : Bool :=
  Section.endsQuery t || Boundary.isJoinModifier t ||
    t.isAnyWord ["WHERE", "HAVING", "LIMIT", "OFFSET", "FETCH", "WINDOW", "JOIN"] ||
    t.isAnyWord ["GROUP", "ORDER"] && after.head?.any (·.isWord "BY") ||
    t.isWord "FROM" && !endsInDistinct before

/-- Tokens of a text that can be the content of a part. -/
structure IsContent (ts : List Token) : Prop where
  nonempty : ts ≠ []
  read : ∃ sql, tokenize sql = .ok ts
  balanced : Balanced ts
  plain : ∀ i, (inside : i < ts.length) → depthAt 0 (ts.take i) = 0 →
    delimits (ts.take i) ts[i] (ts.drop (i + 1)) = false

/-- Whether a `FROM` stands outside of parentheses. -/
def HoldsFrom (ts : List Token) : Prop :=
  ∃ i, ∃ inside : i < ts.length, depthAt 0 (ts.take i) = 0 ∧ ts[i].isWord "FROM"

instance (ts : List Token) : Decidable (HoldsFrom ts) :=
  decidable_of_iff
    (∃ i : Fin ts.length, depthAt 0 (ts.take i) = 0 ∧ (ts.get i).isWord "FROM")
    ⟨fun ⟨i, here⟩ => ⟨i, i.isLt, here⟩, fun ⟨i, inside, here⟩ => ⟨⟨i, inside⟩, here⟩⟩

/-- A part of a statement: its keywords in any letter case, and what they introduce. -/
structure Part (kind : ClauseKind) where
  words : List String
  introduces : Introduces kind words
  keywords : List Text
  spelled : keywords.map Text.upper = words.map String.toList
  content : List Token
  isContent : IsContent content

/-- The parts that a statement is assembled from. -/
structure Assembly where
  projection : Part .projection
  source : Part .source
  joins : List (Part .joins)
  filter : Option (Part .filter)
  grouping : Option (Part .grouping)
  having : Option (Part .having)
  ordering : Option (Part .ordering)
  limit : Option (Part .limit)

namespace Part

variable {kind : ClauseKind}

/-- The pieces of text that the part is written in. -/
def pieces (p : Part kind) : List Text := p.keywords ++ [render p.content]

/-- The text of the part in a set of clauses: a join has its keywords. -/
def text (p : Part kind) : Text :=
  if kind = .joins then Text.joinWith [' '] p.pieces else render p.content

end Part

namespace Assembly

/-- The parts in the order in which they are written. -/
def parts (q : Assembly) : List (Σ kind, Part kind) :=
  ⟨_, q.projection⟩ :: ⟨_, q.source⟩ :: (q.joins.map (Sigma.mk _) ++
    (q.filter.toList.map (Sigma.mk _) ++ (q.grouping.toList.map (Sigma.mk _) ++
      (q.having.toList.map (Sigma.mk _) ++ (q.ordering.toList.map (Sigma.mk _) ++
        q.limit.toList.map (Sigma.mk _))))))

/-- Whether a text is the statement: its pieces with spaces between them, and a semicolon or
none. -/
def Writes (q : Assembly) (sql : Text) : Prop :=
  ∃ text, Spaced (q.parts.flatMap fun p => p.2.pieces) text ∧ Ended text sql

/-- The clauses that the parts are. -/
def clauses (q : Assembly) : ClauseSet where
  projection := q.projection.text
  source := q.source.text
  filter := q.filter.elim [] Part.text
  joins := q.joins.map Part.text
  grouping := q.grouping.elim [] Part.text
  ordering := q.ordering.elim [] Part.text
  having := q.having.elim [] Part.text
  limit := q.limit.elim [] Part.text
  reading := .tokens

end Assembly

/-! ### Contents -/

section Contents

variable {ts front tail rest before after : List Token} {t : Token} {slot : Slot}
  {current : Option Slot} {depth : Nat}

/-- No section opens at a token that does not delimit one. -/
theorem at?_of_not_delimits (plain : delimits before t after = false)
    (noFrom : t.isWord "FROM" = false) (next : ∀ u ∈ rest.head?, u.isWord "BY" = false) :
    Boundary.at? (some slot) t (after ++ rest) = none := by
  simp only [delimits, Bool.or_eq_false_iff, Bool.and_eq_false_iff] at plain
  obtain ⟨⟨⟨⟨-, noModifier⟩, noKeyword⟩, noBefore⟩, -⟩ := plain
  have noWord {w : String} (known : w ∈ ["WHERE", "HAVING", "LIMIT", "OFFSET", "FETCH", "WINDOW",
      "JOIN"]) (word : t.isWord w) : False :=
    Bool.eq_false_iff.mp noKeyword (List.any_eq_true.mpr ⟨w, known, word⟩)
  refine Option.eq_none_iff_forall_not_mem.mpr fun b opens => ?_
  obtain ⟨opening, ⟨more, whole⟩, words⟩ := Boundary.at?_eq_some_iff.mp opens
  cases words with
  | sole known word =>
      obtain ⟨rfl, -⟩ := List.cons.inj whole
      simp only [Boundary.soleWords, List.mem_cons, Prod.mk.injEq, List.not_mem_nil, or_false]
        at known
      rcases known with ⟨rfl, -⟩ | ⟨rfl, -⟩ | ⟨rfl, -⟩ | ⟨rfl, -⟩
      · simp [noFrom] at word
      all_goals exact noWord (by simp) word
  | @before _ w _ _ u known word by_ =>
      obtain ⟨rfl, follows⟩ := List.cons.inj whole
      have listed : w ∈ ["GROUP", "ORDER"] := by
        simpa [Boundary.wordsBeforeBy, or_comm] using List.mem_map_of_mem (f := Prod.fst) known
      have noBy := noBefore.resolve_left fun none =>
        Bool.eq_false_iff.mp none (List.any_eq_true.mpr ⟨w, listed, word⟩)
      cases after with
      | nil =>
          have first : rest.head? = some u := by
            rw [← List.nil_append rest, ← follows]
            rfl
          simpa [by_] using next u first
      | cons a as =>
          obtain ⟨rfl, -⟩ := List.cons.inj follows
          simp [by_] at noBy
  | @rows _ w _ known word =>
      obtain ⟨rfl, -⟩ := List.cons.inj whole
      simp only [List.mem_cons, List.not_mem_nil, or_false] at known
      rcases known with rfl | rfl
      all_goals exact noWord (by simp) word
  | window word =>
      obtain ⟨rfl, -⟩ := List.cons.inj whole
      exact noWord (by simp) word
  | @join _ modifiers j all word =>
      cases modifiers with
      | nil =>
          obtain ⟨rfl, -⟩ := List.cons.inj whole
          exact noWord (by simp) word
      | cons m ms =>
          obtain ⟨rfl, -⟩ := List.cons.inj whole
          simp [noModifier] at all

theorem IsContent.plain_at (content : IsContent ts) (split : ts = before ++ t :: after)
    (flat : depthAt 0 before = 0) : delimits before t after = false := by
  subst split
  have here := content.plain before.length (by simp) (by simpa using flat)
  simpa using here

theorem holdsFrom_of_split (flat : depthAt 0 before = 0) (word : t.isWord "FROM") :
    HoldsFrom (before ++ t :: after) :=
  ⟨before.length, by simp, by simpa using flat, by simpa using word⟩

/-- What stands in the content before its first `FROM` belongs to the section that it stands in. -/
theorem stays_front (content : IsContent ts) (split : ts = front ++ tail)
    (noFrom : ¬ HoldsFrom front) (next : ∀ u ∈ rest.head?, u.isWord "BY" = false) (slot : Slot) :
    Section.Stays (some slot) 0 front (tail ++ rest) := by
  rintro before t after rfl flat
  have plain : delimits before t (after ++ tail) = false :=
    content.plain_at (by simp [split]) flat
  have noFrom : t.isWord "FROM" = false :=
    Bool.eq_false_iff.mpr fun word => noFrom (holdsFrom_of_split flat word)
  have closed : Boundary.at? (some slot) t _ = none := at?_of_not_delimits plain noFrom next
  rw [List.append_assoc] at closed
  simp only [delimits, Bool.or_eq_false_iff] at plain
  exact ⟨by simp [plain], closed⟩

theorem depthAt_marked (depth : Nat) (spaced : Bool) (ts : List Token) :
    depthAt depth (marked spaced ts) = depthAt depth ts := by
  cases ts <;> rfl

theorem stays_marked (stays : Section.Stays current depth ts rest) (spaced : Bool) :
    Section.Stays current depth (marked spaced ts) rest := by
  cases ts with
  | nil => exact stays
  | cons t ts =>
      intro before u after split flat
      cases before with
      | nil =>
          obtain ⟨rfl, rfl⟩ := List.cons.inj split
          obtain ⟨goesOn, closed⟩ := stays [] t ts rfl flat
          exact ⟨goesOn, (Boundary.at?_respaced current t spaced _).trans closed⟩
      | cons v before =>
          obtain ⟨rfl, rfl⟩ := List.cons.inj split
          exact stays (t :: before) u after rfl flat

/-- The first `FROM` of a content stands after other tokens of it. -/
theorem HoldsFrom.first (content : IsContent ts) (holds : HoldsFrom ts) :
    ∃ front f after, ts = front ++ f :: after ∧ front ≠ [] ∧ depthAt 0 front = 0 ∧
      f.isWord "FROM" ∧ ¬ HoldsFrom front := by
  classical
  obtain ⟨inside, flat, word⟩ := Nat.find_spec holds
  have first := fun j (earlier : j < Nat.find holds) => Nat.find_min holds earlier
  generalize Nat.find holds = i at inside flat word first
  have split : ts = ts.take i ++ ts[i] :: ts.drop (i + 1) := by simp
  refine ⟨ts.take i, ts[i], ts.drop (i + 1), split, ?_, flat, word, ?_⟩
  · -- Only after the words of a comparison is a `FROM` no delimiter.
    intro nothing
    have plain := content.plain_at split flat
    rw [nothing] at plain
    simp [delimits, endsInDistinct, word] at plain
  · rintro ⟨j, before, flat', word'⟩
    rw [List.length_take] at before
    have earlier : j < i := by omega
    rw [List.take_take, Nat.min_eq_left (Nat.le_of_lt earlier)] at flat'
    rw [List.getElem_take] at word'
    exact first j earlier ⟨by omega, flat', word'⟩

end Contents

/-! ### Parts as sections -/

namespace Part

variable {kind : ClauseKind} {current : Option Slot}

/-- The keywords of the part as tokens. -/
def opening (p : Part kind) : List Token := p.keywords.map fun w => ⟨.word, w, true⟩

/-- The section that the part is. -/
def toSection (p : Part kind) : Section :=
  ⟨⟨.clause kind, p.keywords.length, kind == .joins⟩, p.opening, marked true p.content⟩

/-- The pieces of the part as tokens. -/
def tokenPieces (p : Part kind) : List (List Token) := p.opening.map ([·]) ++ [p.content]

theorem map_render_tokenPieces (p : Part kind) : p.tokenPieces.map render = p.pieces := by
  simp [tokenPieces, pieces, opening, render, Function.comp_def]

theorem together_tokenPieces (p : Part kind) : together p.tokenPieces = p.toSection.tokens := by
  have words : together (p.opening.map ([·])) = p.opening := by
    rw [together, opening, List.map_map, List.flatMap_map]
    exact List.map_eq_flatMap.symm
  rw [tokenPieces, together, List.flatMap_append, ← together, words, List.flatMap_singleton]
  rfl

theorem legible (p : Part kind) : Legible p.content :=
  p.isContent.read.elim fun _ read => legible_of_tokenize read

theorem known_words {words : List String} (introduces : Introduces kind words) :
    ∀ w ∈ words, w ∈ Boundary.openingWords := by
  cases introduces with
  | joins known =>
      intro w mem
      rcases List.mem_append.mp mem with modifier | join
      · simp [Boundary.openingWords, known w modifier]
      · rw [List.mem_singleton.mp join]
        decide
  | _ => decide

theorem legible_tokenPieces (p : Part kind) : ∀ ts ∈ p.tokenPieces, Legible ts ∧ ts ≠ [] := by
  intro ts mem
  rcases List.mem_append.mp mem with keyword | content
  · obtain ⟨t, here, rfl⟩ := List.mem_map.mp keyword
    obtain ⟨w, isKeyword, rfl⟩ := List.mem_map.mp here
    have spelled : Text.upper w ∈ p.words.map String.toList :=
      p.spelled ▸ List.mem_map_of_mem isKeyword
    obtain ⟨word, isWord, same⟩ := List.mem_map.mp spelled
    exact ⟨legible_keyword (known_words p.introduces word isWord) same.symm true, by simp⟩
  · rw [List.mem_singleton.mp content]
    exact ⟨p.legible, p.isContent.nonempty⟩

/-- The keywords of a part open its section. -/
theorem opens (p : Part kind) (free : kind = .projection → current = none)
    (tables : kind = .joins → Boundary.listsTables current) :
    Boundary.Opening current p.toSection.boundary p.toSection.opening := by
  have isWord {w : Text} {word : String} (same : Text.upper w = word.toList) :
      (⟨.word, w, true⟩ : Token).isWord word := by
    simp [Token.isWord, same]
  have sole {keywords : List Text} {word : String}
      (spelled : keywords.map Text.upper = [word.toList]) :
      ∃ w, keywords = [w] ∧ (⟨.word, w, true⟩ : Token).isWord word := by
    obtain ⟨w, rfl, same⟩ := List.map_eq_singleton_iff.mp spelled
    exact ⟨w, rfl, isWord same⟩
  have beforeBy {keywords : List Text} {word : String}
      (spelled : keywords.map Text.upper = [word.toList, "BY".toList]) :
      ∃ w by_, keywords = [w, by_] ∧ (⟨.word, w, true⟩ : Token).isWord word ∧
        (⟨.word, by_, true⟩ : Token).isWord "BY" := by
    obtain ⟨w, rest, rfl, same, next⟩ := List.map_eq_cons_iff.mp spelled
    obtain ⟨by_, rfl, isBy⟩ := sole next
    exact ⟨w, by_, rfl, isWord same, isBy⟩
  obtain ⟨words, introduces, keywords, spelled, content, isContent⟩ := p
  unfold toSection opening
  cases introduces with
  | projection =>
      obtain ⟨w, rfl, word⟩ := sole spelled
      rw [free rfl]
      exact .select word
  | source =>
      obtain ⟨w, rfl, word⟩ := sole spelled
      exact .sole (w := "FROM") (by decide) word
  | filter =>
      obtain ⟨w, rfl, word⟩ := sole spelled
      exact .sole (w := "WHERE") (by decide) word
  | «having» =>
      obtain ⟨w, rfl, word⟩ := sole spelled
      exact .sole (w := "HAVING") (by decide) word
  | limit =>
      obtain ⟨w, rfl, word⟩ := sole spelled
      exact .sole (w := "LIMIT") (by decide) word
  | grouping =>
      obtain ⟨w, by_, rfl, word, next⟩ := beforeBy spelled
      exact .before (w := "GROUP") (by decide) word next
  | ordering =>
      obtain ⟨w, by_, rfl, word, next⟩ := beforeBy spelled
      exact .before (w := "ORDER") (by decide) word next
  | joins known =>
      rw [List.map_append] at spelled
      obtain ⟨ms, last, rfl, modifiers, join⟩ := List.map_eq_append_iff.mp spelled
      obtain ⟨j, rfl, word⟩ := sole join
      have all : ∀ m ∈ ms.map fun w => (⟨.word, w, true⟩ : Token), Boundary.isJoinModifier m := by
        intro m mem
        obtain ⟨w, isModifier, rfl⟩ := List.mem_map.mp mem
        have spelled : Text.upper w ∈ _ := modifiers ▸ List.mem_map_of_mem isModifier
        obtain ⟨word, here, same⟩ := List.mem_map.mp spelled
        exact List.any_eq_true.mpr ⟨word, known word here, isWord same.symm⟩
      have opened := Boundary.Opening.join all word (.inr (tables rfl))
      simpa using opened

theorem opening_ne_nil (p : Part kind) : p.toSection.opening ≠ [] := by
  by_cases first : kind = .projection
  · have opens : Boundary.Opening none _ _ := p.opens (fun _ => rfl) (by simp [first])
    exact opens.ne_nil
  · have opens : Boundary.Opening (some (.clause .source)) _ _ :=
      p.opens (fun isFirst => absurd isFirst first) fun _ => rfl
    exact opens.ne_nil

/-- No part starts with `BY`. -/
theorem head_opening (p : Part kind) : ∀ u ∈ p.opening.head?, u.isWord "BY" = false := by
  have other : ∀ w ∈ p.words.head?, w ≠ "BY" := by
    have known := p.introduces
    generalize p.words = words at known
    cases known with
    | @joins modifiers known =>
        cases modifiers with
        | nil => simp
        | cons m ms =>
            have listed := known m (by simp)
            have others : ∀ m ∈ Boundary.joinModifiers, m ≠ "BY" := by decide
            simpa using others m listed
    | _ => simp
  intro u first
  rw [opening, List.head?_map] at first
  obtain ⟨w, here, rfl⟩ := Option.map_eq_some_iff.mp first
  have spelled : (p.words.map String.toList).head? = some (Text.upper w) := by
    rw [← p.spelled, List.head?_map, here]
    rfl
  rw [List.head?_map] at spelled
  obtain ⟨word, isFirst, same⟩ := Option.map_eq_some_iff.mp spelled
  refine Bool.eq_false_iff.mpr fun by_ => other word isFirst (String.toList_inj.mp ?_)
  exact same.trans (upper_of_isWord by_)

theorem text_ne_nil_of_mem_content (p : Part kind) {t : Token} (mem : t ∈ marked true p.content) :
    t.text ≠ [] := by
  obtain ⟨before, after, whole⟩ := List.append_of_mem mem
  have legible := p.legible.marked true
  rw [whole] at legible
  exact legible.append_right.1.text_ne_nil

theorem render_content (p : Part kind) : render p.toSection.content = p.text := by
  have whole := render_together fun ts mem => (p.legible_tokenPieces ts mem).2
  rw [map_render_tokenPieces, together_tokenPieces] at whole
  rw [Section.content, text, ← whole]
  by_cases joins : kind = .joins
  · simp [toSection, joins, Section.tokens]
  · simp [toSection, joins]

theorem text_ne_nil (p : Part kind) : p.text ≠ [] := by
  obtain ⟨t, ts, first⟩ := List.exists_cons_of_ne_nil (marked_ne_nil p.isContent.nonempty true)
  have body : t ∈ p.toSection.body := by
    rw [toSection, first]
    exact List.mem_cons_self
  have mem : t ∈ p.toSection.content := by
    unfold Section.content
    split
    · exact List.mem_append_right _ body
    · exact body
  rw [← p.render_content]
  exact render_ne_nil_of_mem mem (p.text_ne_nil_of_mem_content (first ▸ List.mem_cons_self))

/-- Where a part is cut its text is cut. -/
theorem render_cut (p : Part kind) {front tail : List Token}
    (split : marked true p.content = front ++ tail) (begun : front ≠ []) (rest : tail ≠ []) :
    render { p.toSection with body := front }.content ≠ [] ∧
      render { p.toSection with body := front }.content ≠ p.text := by
  obtain ⟨t, front, rfl⟩ := List.exists_cons_of_ne_nil begun
  obtain ⟨u, tail, rfl⟩ := List.exists_cons_of_ne_nil rest
  have whole : p.toSection.content =
      { p.toSection with body := t :: front }.content ++ u :: tail := by
    unfold Section.content
    have body : p.toSection.body = t :: front ++ u :: tail := split
    split <;> simp [body]
  have mem : t ∈ { p.toSection with body := t :: front }.content := by
    unfold Section.content
    split <;> simp
  have first := p.text_ne_nil_of_mem_content (split ▸ List.mem_append_left _ List.mem_cons_self)
  have second := p.text_ne_nil_of_mem_content
    (split ▸ List.mem_append_right _ List.mem_cons_self)
  refine ⟨render_ne_nil_of_mem mem first, ?_⟩
  rw [← p.render_content, whole, render_append (List.ne_nil_of_mem mem)]
  intro same
  have longer := List.self_eq_append_right.mp same
  rw [trail_cons, spacedText] at longer
  split at longer
  · cases longer
  · exact second (List.append_eq_nil_iff.mp longer).1

end Part

/-! ### The sections of a statement -/

section Split

variable {current : Option Slot} {ps : List (Σ kind, Part kind)} {ends : List Token}

/-- Whether parts can follow each other inside of the section `current`. -/
def Follows : Option Slot → List (Σ kind, Part kind) → Prop
  | _, [] => True
  | current, p :: ps =>
    (p.1 = .projection → current = none) ∧ (p.1 = .joins → Boundary.listsTables current) ∧
      Follows (some (.clause p.1)) ps

/-- The sections that are read of parts. -/
inductive ReadAs : List (Σ kind, Part kind) → List Section → Prop
  /-- Every part is read as it is. -/
  | whole {ps : List (Σ kind, Part kind)} (noFrom : ∀ p ∈ ps, ¬ HoldsFrom p.2.content) :
      ReadAs ps (ps.map fun p => p.2.toSection)
  /-- A part is cut in two before a `FROM` that it holds. -/
  | cut {done later : List (Σ kind, Part kind)} {p : Σ kind, Part kind} {front tail : List Token}
      (holds : HoldsFrom p.2.content) (split : marked true p.2.content = front ++ tail)
      (begun : front ≠ []) (rest : tail ≠ []) (more : List Section) :
      ReadAs (done ++ p :: later)
        (done.map (fun p => p.2.toSection) ++ { p.2.toSection with body := front } :: more)

theorem ReadAs.cons {ss : List Section} (p : Σ kind, Part kind) (noFrom : ¬ HoldsFrom p.2.content)
    (read : ReadAs ps ss) : ReadAs (p :: ps) (p.2.toSection :: ss) := by
  cases read with
  | whole rest => exact .whole (List.forall_mem_cons.mpr ⟨noFrom, rest⟩)
  | @cut done _ _ _ _ holds split begun rest more =>
      exact @ReadAs.cut (p :: done) _ _ _ _ holds split begun rest more

theorem head_parts (ended : ends = [] ∨ ∃ spaced, ends = [⟨.symbol, [';'], spaced⟩]) :
    ∀ u ∈ (ps.flatMap (fun p => p.2.toSection.tokens) ++ ends).head?, u.isWord "BY" = false := by
  intro u first
  cases ps with
  | nil =>
      rcases ended with rfl | ⟨spaced, rfl⟩
      · cases first
      · obtain rfl := Option.some.inj first
        rfl
  | cons p ps =>
      rw [List.flatMap_cons, Section.tokens, List.append_assoc, List.append_assoc,
        List.head?_append_of_ne_nil _ p.2.opening_ne_nil] at first
      exact p.2.head_opening u first

/-- The sections of parts one after the other. The induction is on the parts. -/
theorem splitFrom_parts (follows : Follows current ps) (begun : ps = [] → current.isSome)
    (ended : ends = [] ∨ ∃ spaced, ends = [⟨.symbol, [';'], spaced⟩]) :
    (Section.splitFrom current 0 (ps.flatMap (fun p => p.2.toSection.tokens) ++ ends)).1 = [] ∧
      ReadAs ps
        (Section.splitFrom current 0 (ps.flatMap (fun p => p.2.toSection.tokens) ++ ends)).2 := by
  induction ps generalizing current with
  | nil =>
      have nothing : Section.splitFrom current 0 ends = ([], []) := by
        rcases ended with rfl | ⟨spaced, rfl⟩
        · rw [Section.splitFrom]
        · exact Section.splitFrom_ends (begun rfl) rfl []
      rw [List.flatMap_nil, List.nil_append, nothing]
      exact ⟨rfl, .whole (by simp)⟩
  | cons p ps ih =>
      obtain ⟨free, tables, after⟩ := follows
      have opens := p.2.opens free tables
      rw [List.flatMap_cons, Section.tokens, List.append_assoc, List.append_assoc,
        Section.splitFrom_opening opens]
      refine ⟨rfl, ?_⟩
      have later := ih after fun _ => rfl
      generalize rest : ps.flatMap (fun p => p.2.toSection.tokens) ++ ends = others at later ⊢
      have next : ∀ u ∈ others.head?, u.isWord "BY" = false := rest ▸ head_parts ended
      by_cases holds : HoldsFrom p.2.content
      · obtain ⟨front, f, tail, split, begun, flat, word, first⟩ := holds.first p.2.isContent
        have whole : marked true p.2.content = marked true front ++ f :: tail := by
          rw [split, marked_append begun]
        have stays := stays_marked (stays_front p.2.isContent split first next (.clause p.1)) true
        have cut : Boundary.Opening (some (.clause p.1)) ⟨.clause .source, 1, false⟩ [f] :=
          .sole (w := "FROM") (by decide) word
        have body := Section.splitFrom_stays stays
        -- A section of sources opens at the `FROM`; what it and later sections are does not matter.
        have same : f :: tail ++ others = [f] ++ (tail ++ others) := rfl
        rw [depthAt_marked, flat, same, Section.splitFrom_opening cut, List.append_nil] at body
        have body_eq : p.2.toSection.body = marked true p.2.content := rfl
        have slot : p.2.toSection.boundary.slot = .clause p.1 := rfl
        rw [body_eq, slot, whole, List.append_assoc, same, body]
        exact @ReadAs.cut [] ps p _ _ holds whole (marked_ne_nil begun true)
          (List.cons_ne_nil _ _) _
      · have stays := stays_marked
          (stays_front p.2.isContent (List.append_nil _).symm holds next (.clause p.1)) true
        have body := Section.splitFrom_stays stays
        rw [depthAt_marked, p.2.isContent.balanced.depthAt_eq, List.nil_append] at body
        have body_eq : p.2.toSection.body = marked true p.2.content := rfl
        have slot : p.2.toSection.boundary.slot = .clause p.1 := rfl
        rw [body_eq, slot, body, later.1, List.append_nil]
        exact later.2.cons p holds

end Split

/-! ### Clauses of a statement -/

namespace Assembly

variable {q : Assembly} {sql : Text} {ss : List Section}

theorem follows_of_other {ps : List (Σ kind, Part kind)}
    (other : ∀ p ∈ ps, p.1 ≠ .projection ∧ p.1 ≠ .joins) (current : Option Slot) :
    Follows current ps := by
  induction ps generalizing current with
  | nil => trivial
  | cons p ps ih =>
      rw [List.forall_mem_cons] at other
      exact ⟨fun first => absurd first other.1.1, fun join => absurd join other.1.2, ih other.2 _⟩

/-- Joins follow the source and other joins. -/
theorem follows_joins (js : List (Part .joins)) {ps : List (Σ kind, Part kind)}
    (rest : ∀ current, Follows current ps) {current : Option Slot}
    (tables : Boundary.listsTables current) :
    Follows current (js.map (Sigma.mk _) ++ ps) := by
  induction js generalizing current with
  | nil => exact rest current
  | cons j js ih => exact ⟨fun first => (nomatch first), fun _ => tables, ih rfl⟩

theorem follows_parts (q : Assembly) : Follows none q.parts := by
  refine ⟨fun _ => rfl, fun join => (nomatch join), fun first => (nomatch first),
    fun join => (nomatch join), follows_joins q.joins (follows_of_other ?_) rfl⟩
  intro p mem
  simp only [List.mem_append, List.mem_map] at mem
  obtain ⟨_, -, rfl⟩ | ⟨_, -, rfl⟩ | ⟨_, -, rfl⟩ | ⟨_, -, rfl⟩ | ⟨_, -, rfl⟩ := mem <;>
    exact ⟨fun first => (nomatch first), fun join => (nomatch join)⟩

/-- The tokens of a written statement, but for the mark of the first. -/
theorem tokenize_of_writes (written : q.Writes sql) :
    ∃ ends, tokenize sql =
        .ok (atStart (q.parts.flatMap (fun p => p.2.toSection.tokens) ++ ends)) ∧
      (ends = [] ∨ ∃ spaced, ends = [⟨.symbol, [';'], spaced⟩]) := by
  obtain ⟨text, pieces, ended⟩ := written
  have rendered : q.parts.flatMap (fun p => p.2.pieces) =
      (q.parts.flatMap fun p => p.2.tokenPieces).map render := by
    simp only [List.map_flatMap, Part.map_render_tokenPieces]
  rw [rendered] at pieces
  obtain ⟨ends, read, atEnd⟩ := tokenize_spaced pieces ended fun ts mem => by
    obtain ⟨p, -, here⟩ := List.mem_flatMap.mp mem
    exact p.2.legible_tokenPieces ts here
  refine ⟨ends, ?_, atEnd⟩
  have tokens : together (q.parts.flatMap fun p => p.2.tokenPieces) =
      q.parts.flatMap fun p => p.2.toSection.tokens := by
    simp only [← Part.together_tokenPieces, together, List.flatMap_assoc]
  have nonempty : (q.parts.flatMap fun p => p.2.toSection.tokens) ≠ [] := by
    have first := q.projection.opening_ne_nil
    simp [parts, Section.tokens, first]
  rw [read, tokens, ← marked_append nonempty]
  rfl

theorem filter_map_mk {k : ClauseKind} (kind : ClauseKind) (ps : List (Part k)) :
    (ps.map (Sigma.mk k)).filter (fun p => p.1 == kind) =
      if k = kind then ps.map (Sigma.mk k) else [] := by
  split
  next same =>
    rw [List.filter_eq_self]
    intro _ mem
    obtain ⟨p, -, rfl⟩ := List.mem_map.mp mem
    simp [same]
  next other =>
    rw [List.filter_eq_nil_iff]
    intro _ mem
    obtain ⟨p, -, rfl⟩ := List.mem_map.mp mem
    simp [other]

/-- The texts of the parts of one kind. -/
def textsOf (kind : ClauseKind) (ps : List (Σ kind, Part kind)) : List Text :=
  (ps.filter fun p => p.1 == kind).map fun p => p.2.text

theorem textsOf_sections (kind : ClauseKind) (ps : List (Σ kind, Part kind)) :
    Section.textsOf kind (ps.map fun p => p.2.toSection) = textsOf kind ps := by
  have slot : ((fun s : Section => s.boundary.slot == .clause kind) ∘
      fun p : Σ kind, Part kind => p.2.toSection) = fun p => p.1 == kind :=
    funext fun p => Section.slot_eq p.1 kind
  rw [Section.textsOf, textsOf, List.filter_map, slot, List.map_map]
  exact List.map_congr_left fun p _ => p.2.render_content

theorem textsOf_append (kind : ClauseKind) (ps rest : List (Σ kind, Part kind)) :
    textsOf kind (ps ++ rest) = textsOf kind ps ++ textsOf kind rest := by
  rw [textsOf, List.filter_append, List.map_append, textsOf, textsOf]

theorem textsOf_cons_self (p : Σ kind, Part kind) (ps : List (Σ kind, Part kind)) :
    textsOf p.1 (p :: ps) = p.2.text :: textsOf p.1 ps := by
  simp [textsOf]

theorem joins_clauses (q : Assembly) : q.clauses.joins = textsOf .joins q.parts := by
  simp [textsOf, parts, filter_map_mk, clauses]

/-- The part of a kind, of which there is one at most. -/
def part? (q : Assembly) : (kind : ClauseKind) → Option (Part kind)
  | .projection => some q.projection
  | .source => some q.source
  | .filter => q.filter
  | .joins => none
  | .grouping => q.grouping
  | .ordering => q.ordering
  | .having => q.having
  | .limit => q.limit

theorem textsOf_parts {kind : ClauseKind} (noJoins : kind ≠ .joins) (q : Assembly) :
    textsOf kind q.parts = ((q.part? kind).map Part.text).toList := by
  cases kind with
  | joins => exact absurd rfl noJoins
  | _ => simp [textsOf, parts, filter_map_mk, part?, Option.toList_map]

theorem text_clauses {kind : ClauseKind} (noJoins : kind ≠ .joins) (q : Assembly) :
    q.clauses.text kind = ClauseSet.firstText (textsOf kind q.parts) := by
  have first : ClauseSet.firstText ((q.part? kind).map Part.text).toList =
      (q.part? kind).elim [] Part.text := by
    cases q.part? kind with
    | none => rfl
    | some p => simp [ClauseSet.firstText, p.text_ne_nil]
  rw [textsOf_parts noJoins, first]
  cases kind with
  | joins => exact absurd rfl noJoins
  | _ => rfl

/-- Of every kind but joins there is one part at most. -/
theorem length_textsOf_le {kind : ClauseKind} (noJoins : kind ≠ .joins) (q : Assembly) :
    (textsOf kind q.parts).length ≤ 1 := by
  rw [textsOf_parts noJoins]
  exact Option.length_toList_le

/-- The clauses of the sections are the parts, unless a part is cut. -/
theorem texts_of_readAs (read : ReadAs q.parts ss) :
    ((∀ kind, kind ≠ .joins →
        ClauseSet.firstText (Section.textsOf kind ss) = q.clauses.text kind) ∧
      Section.textsOf .joins ss = q.clauses.joins) ↔
      ∀ p ∈ q.parts, ¬ HoldsFrom p.2.content := by
  generalize whole : q.parts = ps at read
  cases read with
  | whole noFrom =>
      refine iff_of_true ⟨fun kind noJoins => ?_, ?_⟩ noFrom
      · rw [textsOf_sections, text_clauses noJoins, whole]
      · rw [textsOf_sections, joins_clauses, whole]
  | @cut done later p front tail holds split begun rest more =>
      refine iff_of_false (fun ⟨texts, joins⟩ => ?_) fun noFrom => noFrom p (by simp) holds
      obtain ⟨nonempty, other⟩ := p.2.render_cut split begun rest
      have sections : Section.textsOf p.1
          (done.map (fun p => p.2.toSection) ++ { p.2.toSection with body := front } :: more) =
          textsOf p.1 done ++ render { p.2.toSection with body := front }.content ::
            Section.textsOf p.1 more := by
        rw [← textsOf_sections]
        simp [Section.textsOf, Part.toSection]
      have parts : textsOf p.1 q.parts = textsOf p.1 done ++ p.2.text :: textsOf p.1 later := by
        rw [whole, textsOf_append, textsOf_cons_self]
      by_cases join : p.1 = .joins
      · rw [← join, sections, joins_clauses, ← join, parts] at joins
        exact other (List.cons.inj (List.append_cancel_left joins)).1
      · -- No other part is of the kind, so the clause has the text that is cut.
        have alone : textsOf p.1 done = [] := by
          have one := length_textsOf_le join q
          rw [parts, List.length_append, List.length_cons] at one
          exact List.length_eq_zero_iff.mp (by omega)
        have text := texts p.1 join
        rw [sections, text_clauses join, parts, alone] at text
        simp [ClauseSet.firstText, nonempty, p.2.text_ne_nil] at text
        exact other text

/-- The first part is read, in whole or in part. -/
theorem exists_of_readAs {p : Σ kind, Part kind} {ps : List (Σ kind, Part kind)}
    (read : ReadAs (p :: ps) ss) :
    ∃ text texts, Section.textsOf p.1 ss = text :: texts ∧ text ≠ [] := by
  generalize whole : p :: ps = parts at read
  cases read with
  | whole noFrom =>
      rw [← whole, textsOf_sections, textsOf_cons_self]
      exact ⟨_, _, rfl, p.2.text_ne_nil⟩
  | @cut done later p' front tail holds split begun rest more =>
      cases done with
      | nil =>
          obtain ⟨rfl, -⟩ := List.cons.inj whole
          refine ⟨_, Section.textsOf p.1 more, ?_, (p.2.render_cut split begun rest).1⟩
          simp [Section.textsOf, Part.toSection]
      | cons d done =>
          obtain ⟨rfl, -⟩ := List.cons.inj whole
          refine ⟨p.2.text, Section.textsOf p.1 (done.map (fun p => p.2.toSection) ++
            { p'.2.toSection with body := front } :: more), ?_, p.2.text_ne_nil⟩
          rw [← p.2.render_content]
          simp [Section.textsOf, Part.toSection]

/-- What is read of an assembled statement are the parts again exactly if none of them holds a
`FROM` outside of parentheses. -/
theorem ofStatement_eq_clauses_iff (q : Assembly) (written : q.Writes sql) :
    ClauseSet.ofStatement sql = q.clauses ↔ ∀ p ∈ q.parts, ¬ HoldsFrom p.2.content := by
  obtain ⟨ends, read, ended⟩ := tokenize_of_writes written
  have sections := (splitFrom_parts (follows_parts q) (fun none => (nomatch none)) ended).2
  generalize q.parts.flatMap (fun p => p.2.toSection.tokens) ++ ends = ts at read sections
  have core : (ClauseSet.ofTokens ts).hasCore := by
    obtain ⟨text, texts, first, nonempty⟩ := exists_of_readAs sections
    change Section.textsOf .projection (Section.ofTokens ts) = text :: texts at first
    have projection : (ClauseSet.ofTokens ts).projection = text := by
      have found : (ClauseSet.ofTokens ts).text .projection = _ :=
        ClauseSet.text_eq_firstText (by simp)
      rw [first] at found
      exact found.trans (by simp [ClauseSet.firstText, nonempty])
    simp [ClauseSet.hasCore, projection, nonempty]
  have clauses : ClauseSet.ofStatement sql = ClauseSet.ofTokens ts := by
    rw [ClauseSet.ofStatement, read]
    simp only [ClauseSet.ofTokens_atStart, core, if_true]
  rw [clauses, ← texts_of_readAs sections]
  constructor
  · intro same
    rw [← same]
    exact ⟨fun kind noJoins => (ClauseSet.text_eq_firstText noJoins).symm,
      ClauseSet.joins_eq_textsOf.symm⟩
  · rintro ⟨texts, joins⟩
    refine ClauseSet.eq_of_texts (fun kind noJoins => ?_) ?_ rfl
    · rw [ClauseSet.text_eq_firstText noJoins]
      exact texts kind noJoins
    · rw [ClauseSet.joins_eq_textsOf]
      exact joins

def selectA : Part .projection :=
  ⟨_, .projection, ["SELECT".toList], by decide, [⟨.word, ['a'], false⟩],
    by decide, ⟨"a".toList, by decide +kernel⟩, by decide, by decide⟩

def fromT : Part .source :=
  ⟨_, .source, ["FROM".toList], by decide, [⟨.word, ['t'], false⟩],
    by decide, ⟨"t".toList, by decide +kernel⟩, by decide, by decide⟩

/-- A join with its modifier and a condition. -/
def leftJoinU : Part .joins :=
  ⟨_, @Introduces.joins ["LEFT"] (by decide), ["left".toList, "join".toList], by decide,
    [⟨.word, ['u'], false⟩, spacedWord "on", spacedWord "b"],
    by decide, ⟨"u on b".toList, by decide +kernel⟩, by decide, by decide⟩

/-- A condition that holds the keywords of a query in parentheses. -/
def whereInQuery : Part .filter :=
  ⟨_, .filter, ["where".toList], by decide,
    [⟨.word, ['b'], false⟩, spacedWord "in", ⟨.openParen, ['('], true⟩,
      ⟨.word, "select".toList, false⟩, spacedWord "c", spacedWord "from", spacedWord "s",
      ⟨.closeParen, [')'], false⟩],
    by decide, ⟨"b in (select c from s)".toList, by decide +kernel⟩, by decide, by decide⟩

def orderByA : Part .ordering :=
  ⟨_, .ordering, ["order".toList, "BY".toList], by decide, [⟨.word, ['a'], false⟩],
    by decide, ⟨"a".toList, by decide +kernel⟩, by decide, by decide⟩

theorem ofStatement_eq_clauses_of_query :
    ClauseSet.ofStatement
        "SELECT a FROM t left join u on b where b in (select c from s) order BY a;".toList =
      ⟨['a'], ['t'], "b in (select c from s)".toList, ["left join u on b".toList], [], ['a'], [],
        [], .tokens⟩ := by
  let q : Assembly :=
    ⟨selectA, fromT, [leftJoinU], some whereInQuery, none, none, some orderByA, none⟩
  have written : q.Writes _ := ⟨_, .joinWith (by decide), .semicolon 0⟩
  exact (ofStatement_eq_clauses_iff q written).mpr (by decide)

/-- The comparison of two values of which each may be missing. -/
def whereDistinct : Part .filter :=
  ⟨_, .filter, ["WHERE".toList], by decide,
    [⟨.word, ['b'], false⟩, spacedWord "IS", spacedWord "DISTINCT", spacedWord "FROM",
      spacedWord "c"],
    by decide, ⟨"b IS DISTINCT FROM c".toList, by decide +kernel⟩, by decide, by decide⟩

theorem ofStatement_ne_clauses_of_comparison :
    ∃ q : Assembly, ∃ sql, q.Writes sql ∧
      sql = "SELECT a FROM t WHERE b IS DISTINCT FROM c".toList ∧
      q.clauses.filter = "b IS DISTINCT FROM c".toList ∧
      (ClauseSet.ofStatement sql).filter = "b IS DISTINCT".toList := by
  refine ⟨⟨selectA, fromT, [], some whereDistinct, none, none, none, none⟩, _,
    ⟨_, .joinWith (by decide), .bare⟩, ?_, ?_, ?_⟩
  · decide
  · decide
  · decide +kernel

end Assembly

end SqlGrader
