import SqlGrader.Proofs.Score.Renaming
import SqlGrader.Proofs.Sql.Ascending
/-!
# The default direction of an ordering

Sort items ascend if nothing else is said, and an `ASC` at the end of an item is taken off before
orderings are compared. It is looked for at the end only: before `NULLS FIRST` or `NULLS LAST` it
stays, and the item differs from the one without it.
-/

namespace SqlGrader

open Token

/-- An item of an ordering: an expression, the word for its direction, and what follows them, such
as `NULLS LAST`. -/
structure SortItem where
  expression : List Token
  direction : Option Token
  after : List Token

namespace SortItem

variable {items : List SortItem} {i : SortItem} {s : Scope} {x : Text}

/-- The item without its direction. -/
def bare (i : SortItem) : List Token := i.expression ++ i.after

/-- The item with its direction. -/
def directed (i : SortItem) : List Token := i.expression ++ (i.direction.toList ++ i.after)

/-- The text that an item of an ordering is compared by. -/
def key (s : Scope) (item : List Token) : Text :=
  Statement.withoutAscending (s.canonicalTokens true item)

/-- Whether an expression is one for a direction to follow: a word after it stands apart from it,
and it does not say already that it ascends. -/
structure Undirected (s : Scope) (e : List Token) : Prop where
  apart : Piece.endApart (s.pieces true false e)
  noDirection : ¬ " ASC".toList <:+ s.canonicalTokens true e

instance (s : Scope) (e : List Token) : Decidable (Undirected s e) :=
  decidable_of_iff (Piece.endApart (s.pieces true false e) ∧
    ¬ " ASC".toList <:+ s.canonicalTokens true e) ⟨fun ⟨a, b⟩ => ⟨a, b⟩, fun ⟨a, b⟩ => ⟨a, b⟩⟩

theorem Undirected.ne_nil {e : List Token} (undirected : Undirected s e) : e ≠ [] := by
  rintro rfl
  have apart := undirected.apart
  rw [Scope.pieces] at apart
  cases apart

/-- An `ASC` at the end is not compared. -/
theorem key_ascending {e : List Token} {t : Token} (undirected : Undirected s e)
    (asc : t.isWord "ASC") (free : s.expression? "asc".toList = none) :
    key s (e ++ [t]) = key s e := by
  rw [key, Scope.canonicalTokens_ascending asc free undirected.apart,
    Statement.withoutAscending_append, key,
    Statement.withoutAscending_of_not_isSuffix undirected.noDirection]

theorem depthAt_directed (ascending : ∀ t ∈ i.direction, t.isWord "ASC") (depth : Nat) :
    depthAt depth i.directed = depthAt depth i.bare := by
  have words : ∀ t ∈ i.direction.toList, t.kind = .word := fun t mem =>
    kind_of_isWord (ascending t (Option.mem_toList.mp mem))
  rw [directed, bare, depthAt_append, depthAt_append, depthAt_append, depthAt_of_words _ words]

theorem noneOutside_directed (ascending : ∀ t ∈ i.direction, t.isWord "ASC")
    (apart : NoneOutside Items.isComma 0 i.bare) : NoneOutside Items.isComma 0 i.directed := by
  have words : ∀ t ∈ i.direction.toList, t.kind = .word := fun t mem =>
    kind_of_isWord (ascending t (Option.mem_toList.mp mem))
  have noComma : ∀ t ∈ i.direction.toList, Items.isComma t = false := fun t mem => by
    simp [Items.isComma, words t mem]
  obtain ⟨expression, after⟩ := noneOutside_append.mp apart
  refine noneOutside_append.mpr ⟨expression, noneOutside_append.mpr ⟨?_, ?_⟩⟩
  · exact noneOutside_of_forall noComma
  · rwa [depthAt_of_words _ words]

/-- Items with directions are items with words `ASC` in them. -/
theorem ascends_listed (ascending : ∀ i ∈ items, ∀ t ∈ i.direction, t.isWord "ASC") :
    Ascends (listed (items.map bare)) (listed (items.map directed)) := by
  have one (i : SortItem) (ascending : ∀ t ∈ i.direction, t.isWord "ASC") :
      Ascends i.bare i.directed := by
    refine (Ascends.refl _).append ?_
    cases here : i.direction with
    | none => exact .refl _
    | some t => exact .word (ascending t here) (.refl _)
  induction items with
  | nil => exact .nil
  | cons i items ih =>
      rw [List.forall_mem_cons] at ascending
      cases items with
      | nil => simpa [listed] using one i ascending.1
      | cons next items =>
          rw [List.map_cons, List.map_cons, List.map_cons, List.map_cons, listed, listed,
            List.intercalate_cons_cons, List.intercalate_cons_cons, ← listed, ← listed]
          exact ((one i ascending.1).append (.refl _)).append (ih ascending.2)

end SortItem

open SortItem ComponentMatch

/-- A statement `r`, and the same one with `ASC` after the expressions of some items of its
ordering. -/
structure DirectedOrder (r p : Text) where
  ts : List Token
  us : List Token
  left : tokenize r = .ok ts
  right : tokenize p = .ok us
  /-- The clauses are read from the tokens. -/
  core : (ClauseSet.ofTokens ts).hasCore
  span : Span
  found : clauseSpan? ts .ordering = some span
  /-- The items of the ordering, each with the `ASC` that is written after its expression, if one
  is. Commas outside of parentheses stand between two of them only. -/
  items : List SortItem
  apart : ∀ i ∈ items, NoneOutside Items.isComma 0 i.bare
  closed : ∀ i ∈ items.dropLast, depthAt 0 i.bare = 0
  ascending : ∀ i ∈ items, ∀ t ∈ i.direction, t.isWord "ASC"
  undirected : ∀ i ∈ items, i.direction.isSome → Undirected (Statement.ofText r).scope i.expression
  /-- No item of the projection is named `asc`. -/
  free : (Statement.ofText r).scope.expression? "asc".toList = none
  /-- Gaps do not matter in the ordering, on neither side. -/
  written : ((ts.take span.stop).drop span.textStart).map unspaced =
    (listed (items.map bare)).map unspaced
  body : List Token
  directed : body.map unspaced = (listed (items.map directed)).map unspaced
  /-- Whether a gap stands after the ordering. -/
  gap : Bool
  whole : us = ts.take span.textStart ++ (body ++ marked gap (ts.drop span.stop))

/-- Whether each item that has words after its `ASC` stands without it in the second ordering too,
and with it in the first one. -/
def SortItem.Repeated (r p : Statement) (items : List SortItem) : Prop :=
  ∀ i ∈ items, i.direction.isSome → i.after ≠ [] →
    key r.scope i.bare ∈ p.ordering ∧ key r.scope i.directed ∈ r.ordering

namespace Statement

variable {c : ClauseSet} {s : Scope} {ps : List (List Token)} {body : List Token}

/-- The ordering of a statement whose clause text lists items. -/
theorem ordering_of_listed (text : c.ordering = render body) (legible : Legible body)
    (same : body.map unspaced = (listed ps).map unspaced)
    (apart : ∀ item ∈ ps, NoneOutside Items.isComma 0 item)
    (closed : ∀ item ∈ ps.dropLast, depthAt 0 item = 0) :
    (Statement.mk c s).ordering = (ps.filter fun item => !item.isEmpty).map (key s) := by
  have blind := cosmetic_unspaced.canonicalTokens s true
  have split (ts : List Token) : splitTopLevel Items.isComma (ts.map unspaced) =
      (splitTopLevel Items.isComma ts).map (List.map unspaced) :=
    cosmetic_unspaced.neutral.splitTopLevelWith _ (fun _ _ => rfl) () ts
  have pieces : (splitTopLevel Items.isComma (atStart body)).map (s.canonicalTokens true) =
      (ps.filter fun item => !item.isEmpty).map (s.canonicalTokens true) :=
    calc
      _ = ((splitTopLevel Items.isComma (atStart body)).map (List.map unspaced)).map
            (s.canonicalTokens true) := by simp only [List.map_map, Function.comp_def, blind]
      _ = ((splitTopLevel Items.isComma (listed ps)).map (List.map unspaced)).map
            (s.canonicalTokens true) := by rw [← split, map_unspaced_atStart, same, split]
      _ = (splitTopLevel Items.isComma (listed ps)).map (s.canonicalTokens true) := by
          simp only [List.map_map, Function.comp_def, blind]
      _ = _ := by rw [splitTopLevel_listed apart closed]
  rw [ordering, items, text, Token.canonicalItems_render s legible, pieces, List.map_map]
  rfl

end Statement

namespace DirectedOrder

variable {r p : Text} (edit : DirectedOrder r p)
include edit

theorem legible :
    Legible ((edit.ts.take edit.span.stop).drop edit.span.textStart) ∧ Legible edit.body := by
  have left := legible_of_tokenize edit.left
  have right := legible_of_tokenize edit.right
  rw [edit.whole] at right
  refine ⟨left.of_isInfix ?_, right.append_right.append_left⟩
  exact (List.drop_suffix _ _).isInfix.trans (List.take_prefix _ _).isInfix

theorem ascends : Ascends ((edit.ts.take edit.span.stop).drop edit.span.textStart) edit.body :=
  (ascends_listed edit.ascending).congr edit.written edit.directed

/-- The text of the ordering is empty in neither statement. -/
theorem render_ne_nil :
    render ((edit.ts.take edit.span.stop).drop edit.span.textStart) ≠ [] ∧
      render edit.body ≠ [] := by
  have present := List.find?_some edit.found
  have text : edit.span.text edit.ts =
      render ((edit.ts.take edit.span.stop).drop edit.span.textStart) := by
    rw [Span.text, List.drop_take]
  simp only [text, Bool.and_eq_true, Bool.not_eq_true', List.isEmpty_eq_false_iff] at present
  refine ⟨present.2, fun nothing => present.2 ?_⟩
  have ascends := edit.ascends
  rw [(render_eq_nil edit.legible.2).mp nothing] at ascends
  rw [ascends.eq_nil, render]

/-- The clauses differ in the ordering only. -/
theorem clauses :
    (ClauseSet.ofTokens edit.ts).ordering =
        render ((edit.ts.take edit.span.stop).drop edit.span.textStart) ∧
      ClauseSet.ofTokens edit.us =
        { ClauseSet.ofTokens edit.ts with ordering := render edit.body } := by
  obtain ⟨cut⟩ := exists_clauseCut edit.found (by simp) (by simp)
  obtain ⟨left, right⟩ := edit.render_ne_nil
  have clauses := cut.ordering
    (fun _ split => Section.splitFrom_ascends edit.ascends edit.gap split) left right
  rwa [← edit.whole] at clauses

/-- Names are not read from the ordering, so both statements have the same ones in scope. -/
theorem statements :
    Statement.ofText r =
        ⟨ClauseSet.ofTokens edit.ts, .ofClauses (ClauseSet.ofTokens edit.ts)⟩ ∧
      Statement.ofText p =
        ⟨{ ClauseSet.ofTokens edit.ts with ordering := render edit.body },
          .ofClauses (ClauseSet.ofTokens edit.ts)⟩ := by
  have core : (ClauseSet.ofTokens edit.us).hasCore := by
    rw [edit.clauses.2]
    exact edit.core
  rw [Statement.ofText_of_tokenize edit.left edit.core,
    Statement.ofText_of_tokenize edit.right core, edit.clauses.2]
  exact ⟨rfl, rfl⟩

theorem ordering :
    (Statement.ofText r).ordering =
        ((edit.items.map bare).filter fun item => !item.isEmpty).map
          (key (Statement.ofText r).scope) ∧
      (Statement.ofText p).ordering =
        ((edit.items.map SortItem.directed).filter fun item => !item.isEmpty).map
          (key (Statement.ofText r).scope) := by
  obtain ⟨left, right⟩ := edit.statements
  rw [left, right]
  constructor
  · refine Statement.ordering_of_listed edit.clauses.1 edit.legible.1 edit.written ?_ ?_
    · exact List.forall_mem_map.mpr edit.apart
    · rw [← List.map_dropLast]
      exact List.forall_mem_map.mpr edit.closed
  · refine Statement.ordering_of_listed rfl edit.legible.2 edit.directed ?_ ?_
    · exact List.forall_mem_map.mpr fun i mem =>
        noneOutside_directed (edit.ascending i mem) (edit.apart i mem)
    · rw [← List.map_dropLast]
      refine List.forall_mem_map.mpr fun i mem => ?_
      rw [depthAt_directed (edit.ascending i (List.mem_of_mem_dropLast mem))]
      exact edit.closed i mem

/-- The keys of the items that are not empty. -/
theorem mem_ordering (x : Text) :
    (x ∈ (Statement.ofText r).ordering ↔
        ∃ i ∈ edit.items, i.bare ≠ [] ∧ key (Statement.ofText r).scope i.bare = x) ∧
      (x ∈ (Statement.ofText p).ordering ↔
        ∃ i ∈ edit.items, i.directed ≠ [] ∧ key (Statement.ofText r).scope i.directed = x) := by
  rw [edit.ordering.1, edit.ordering.2]
  simp [and_assoc]

/-- An item is empty with its direction if it is without it, and it has the same key then, unless
words follow the direction. -/
theorem key_directed {i : SortItem} (mem : i ∈ edit.items) :
    (i.bare = [] ↔ i.directed = []) ∧
      (key (Statement.ofText r).scope i.bare = key (Statement.ofText r).scope i.directed ∨
        i.direction.isSome ∧ i.after ≠ []) := by
  cases direction : i.direction with
  | none =>
      have same : i.directed = i.bare := by rw [SortItem.directed, direction]; rfl
      rw [same]
      exact ⟨Iff.rfl, .inl rfl⟩
  | some t =>
      have undirected := edit.undirected i mem (by rw [direction]; rfl)
      refine ⟨by simp [bare, SortItem.directed, undirected.ne_nil], ?_⟩
      rcases eq_or_ne i.after [] with none | more
      · have asc := key_ascending undirected (edit.ascending i mem t direction) edit.free
        have ends : i.directed = i.expression ++ [t] := by
          rw [SortItem.directed, direction, none]
          rfl
        rw [ends, asc, bare, none, List.append_nil]
        exact .inl rfl
      · exact .inr ⟨rfl, more⟩

/-- The orderings agree as sets if the items do that have words after an `ASC`. -/
theorem mem_ordering_iff :
    (∀ x, x ∈ (Statement.ofText r).ordering ↔ x ∈ (Statement.ofText p).ordering) ↔
      Repeated (Statement.ofText r) (Statement.ofText p) edit.items := by
  have left := fun x => (edit.mem_ordering x).1
  have right := fun x => (edit.mem_ordering x).2
  constructor
  · intro same i mem chosen after
    have bare : i.bare ≠ [] := List.append_ne_nil_of_right_ne_nil _ after
    have directed : i.directed ≠ [] := mt (edit.key_directed mem).1.mpr bare
    exact ⟨(same _).mp ((left _).mpr ⟨i, mem, bare, rfl⟩),
      (same _).mpr ((right _).mpr ⟨i, mem, directed, rfl⟩)⟩
  · intro repeated x
    constructor
    · intro here
      obtain ⟨i, mem, nonempty, rfl⟩ := (left x).mp here
      obtain ⟨nil, same | ⟨chosen, after⟩⟩ := edit.key_directed mem
      · exact (right _).mpr ⟨i, mem, mt nil.mpr nonempty, same.symm⟩
      · exact (repeated i mem chosen after).1
    · intro here
      obtain ⟨i, mem, nonempty, rfl⟩ := (right x).mp here
      obtain ⟨nil, same | ⟨chosen, after⟩⟩ := edit.key_directed mem
      · exact (left _).mpr ⟨i, mem, mt nil.mp nonempty, same⟩
      · exact (repeated i mem chosen after).2

/-- Orderings that both statements have are compared as sets. -/
theorem clauseScore_ordering {α : Type} [Scale α] :
    (clauseScore .ordering (Statement.ofText r) (Statement.ofText p) : α) =
        Similarity.jaccard (Statement.ofText r).ordering (Statement.ofText p).ordering ∧
      (clauseScore .ordering (Statement.ofText p) (Statement.ofText r) : α) =
        Similarity.jaccard (Statement.ofText p).ordering (Statement.ofText r).ordering := by
  obtain ⟨left, right⟩ := edit.statements
  obtain ⟨someLeft, someRight⟩ := edit.render_ne_nil
  have presentLeft : (Statement.ofText r).clauses.isPresent .ordering = true := by
    rw [left]
    simpa [ClauseSet.isPresent, ClauseSet.text, edit.clauses.1] using someLeft
  have presentRight : (Statement.ofText p).clauses.isPresent .ordering = true := by
    rw [right]
    simpa [ClauseSet.isPresent, ClauseSet.text] using someRight
  rw [clauseScore, clauseScore, presentLeft, presentRight]
  exact ⟨rfl, rfl⟩

end DirectedOrder

/-- How two orderings score that differ in words `ASC` only, whichever is the reference. -/
structure AscendsByDefault (r p : Statement) (items : List SortItem) : Prop where
  /-- Where each `ASC` ends its item the score is full, in any scale. -/
  full {α : Type} [Scale α] (ends : ∀ i ∈ items, i.direction.isSome → i.after = []) :
    (clauseScore .ordering r p : α) = Scale.ofNat 1 ∧
      (clauseScore .ordering p r : α) = Scale.ofNat 1
  /-- Where words follow one, such as `NULLS LAST`, it is full only if both forms of the item are
  in both orderings. -/
  full_iff : (clauseScore .ordering r p : Rat) = 1 ↔ Repeated r p items
  full_iff' : (clauseScore .ordering p r : Rat) = 1 ↔ Repeated r p items

/-- `ASC` is the default direction of an item that ends with it. -/
theorem clauseScore_ordering_directed {r p : Text} (edit : DirectedOrder r p) :
    AscendsByDefault (Statement.ofText r) (Statement.ofText p) edit.items := by
  refine ⟨fun {α} _ ends => ?_, ?_, ?_⟩
  · have same := edit.mem_ordering_iff.mpr fun i mem chosen after =>
      absurd (ends i mem chosen) after
    rw [edit.clauseScore_ordering.1, edit.clauseScore_ordering.2]
    exact ⟨Similarity.jaccard_of_same same, Similarity.jaccard_of_same fun x => (same x).symm⟩
  · rw [edit.clauseScore_ordering.1, Similarity.jaccard_eq_one_iff, edit.mem_ordering_iff]
  · rw [edit.clauseScore_ordering.2, Similarity.jaccard_eq_one_iff, ← edit.mem_ordering_iff]
    exact forall_congr' fun x => Iff.comm

/-- Items with an alias, with words after the expression and with a direction, of which the first
one is written with `asc`. -/
def directedAlias : DirectedOrder "SELECT a x FROM t ORDER BY x,b NULLS LAST,f(c, 1) DESC;".toList
    "SELECT a x FROM t ORDER BY x asc, b NULLS LAST, f(c,1) DESC ;".toList where
  ts := tokensOf "SELECT a x FROM t ORDER BY x,b NULLS LAST,f(c, 1) DESC;".toList
  us := tokensOf "SELECT a x FROM t ORDER BY x asc, b NULLS LAST, f(c,1) DESC ;".toList
  left := by decide +kernel
  right := by decide +kernel
  core := by decide +kernel
  span := ⟨⟨.clause .ordering, 2, false⟩, 5, 20⟩
  found := by decide +kernel
  items := [⟨tokensOf "x".toList, some (spacedWord "asc"), []⟩,
    ⟨tokensOf "b".toList, none, tokensOf "NULLS LAST".toList⟩,
    ⟨tokensOf "f(c, 1) DESC".toList, none, []⟩]
  apart := by decide +kernel
  closed := by decide +kernel
  ascending := by decide +kernel
  undirected := by decide +kernel
  free := by decide +kernel
  written := by decide +kernel
  body := marked true (tokensOf "x asc, b NULLS LAST, f(c,1) DESC".toList)
  directed := by decide +kernel
  gap := true
  whole := by decide +kernel

/-- The score of the ordering of two statements. -/
def orderingScore {α : Type} [Scale α] (reference predicted : String) : α :=
  clauseScore .ordering (Statement.ofText reference.toList) (Statement.ofText predicted.toList)

theorem clauseScore_ordering_directed_alias :
    (∀ i ∈ directedAlias.items, i.direction.isSome → i.after = []) ∧
      (orderingScore "SELECT a x FROM t ORDER BY x,b NULLS LAST,f(c, 1) DESC;"
        "SELECT a x FROM t ORDER BY x asc, b NULLS LAST, f(c,1) DESC ;" : Float) =
          Scale.ofNat 1 := by
  have ends : ∀ i ∈ directedAlias.items, i.direction.isSome → i.after = [] := by decide
  exact ⟨ends, ((clauseScore_ordering_directed directedAlias).full ends).1⟩

/-- An `ASC` before `NULLS LAST` is not taken for the default, nor is one in place of which an item
of the projection is read. -/
theorem orderingScore_nulls :
    orderingScore "SELECT a FROM t ORDER BY a NULLS LAST"
        "SELECT a FROM t ORDER BY a ASC NULLS LAST" = (0 : Rat) ∧
      orderingScore "SELECT a FROM t ORDER BY a ASC NULLS LAST"
        "SELECT a FROM t ORDER BY a NULLS LAST" = (0 : Rat) ∧
      orderingScore "SELECT b AS asc FROM t ORDER BY a"
        "SELECT b AS asc FROM t ORDER BY a ASC" = (0 : Rat) := by
  decide +kernel

end SqlGrader
