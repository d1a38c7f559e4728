import SqlGrader.Proofs.Sql.Renaming
/-!
# Renaming and the names in scope

Two scopes are *aligned* if they agree on all names but two, of which one comes in
the place of the other. Where a token that is renamed stands for a table, or for
the expression of a projection item, and the new name stands for the same in the
other scope, the canonical texts of a fragment and of the renamed fragment are the
same.
-/

namespace SqlGrader.Scope

open Token

variable {x y : Text} {s s' : Scope} {t : Token} {ts : List Token} {before after : Option Token}
  {withAliases : Bool} {entries : List (Text × Text)}

/-! ### Entries -/

/-- An entry of a scope, for the name `y` if it is for the name `x`. -/
def rekey (x y : Text) (e : Text × Text) : Text × Text :=
  if e.1 = Text.lowercase x then (Text.lowercase y, e.2) else e

/-- The new name is found where the old one was. -/
theorem lookup_rekey_new (fresh : ∀ e ∈ entries, e.1 ≠ Text.lowercase y) :
    (entries.map (rekey x y)).lookup (Text.lowercase y) = entries.lookup (Text.lowercase x) := by
  induction entries with
  | nil => rfl
  | cons e es ih =>
      rw [List.forall_mem_cons] at fresh
      rw [List.map_cons, rekey]
      split
      next here => rw [List.lookup_cons, List.lookup_cons]; simp [here]
      next other =>
        have noKey : (Text.lowercase y == e.1) = false := by simp [Ne.symm fresh.1]
        have noKey' : (Text.lowercase x == e.1) = false := by simp [Ne.symm other]
        rw [List.lookup_cons, List.lookup_cons, noKey, noKey']
        exact ih fresh.2

theorem lookup_rekey_other {key : Text} (notOld : key ≠ Text.lowercase x)
    (notNew : key ≠ Text.lowercase y) :
    (entries.map (rekey x y)).lookup key = entries.lookup key := by
  induction entries with
  | nil => rfl
  | cons e es ih =>
      rw [List.map_cons, rekey]
      split
      next here =>
        have noKey : (key == Text.lowercase y) = false := by simp [notNew]
        have noKey' : (key == e.1) = false := by simp [here, notOld]
        rw [List.lookup_cons, List.lookup_cons, noKey, noKey']
        exact ih
      next => rw [List.lookup_cons, List.lookup_cons, ih]

theorem lookup_isSome_of_mem {key value : Text} (mem : (key, value) ∈ entries) :
    (entries.lookup key).isSome := by
  rw [List.lookup_isSome_iff]
  exact ⟨_, mem, by simp⟩

/-! ### How names come into scope -/

/-- The entries that a table makes, later ones first. -/
def tableEntries (r : TableRef) : List (Text × Text) :=
  (r.aliasName.map fun a => (Text.lowercase a, r.name)).toList ++
    [(Text.lowercase (TableRef.lastPart r.name), r.name)]

/-- The entry that a projection item makes. -/
def entryOfItem? (i : ProjectionItem) : Option (Text × Text) :=
  i.aliasName.map fun a => (Text.lowercase a, i.expression)

theorem foldl_withTable (s : Scope) (tables : List TableRef) :
    tables.foldl withTable s =
      { s with qualifiers := tables.reverse.flatMap tableEntries ++ s.qualifiers } := by
  induction tables generalizing s with
  | nil => rfl
  | cons r rs ih =>
      rw [List.foldl_cons, ih, List.reverse_cons, List.flatMap_append, List.append_assoc]
      unfold withTable
      cases named : r.aliasName <;> simp [tableEntries, named]

theorem foldl_withItem (s : Scope) (items : List ProjectionItem) :
    items.foldl withItem s =
      { s with
        projectionAliases := items.reverse.filterMap entryOfItem? ++ s.projectionAliases } := by
  induction items generalizing s with
  | nil => rfl
  | cons i is ih =>
      rw [List.foldl_cons, ih, List.reverse_cons, List.filterMap_append, List.append_assoc]
      unfold withItem
      cases named : i.aliasName <;> simp [entryOfItem?, named]

/-- The tables that a set of clauses brings into scope. -/
def ofTables (c : ClauseSet) : Scope :=
  (tablesOf c).foldl withTable
    { empty with singleTable := (tablesOf c).length == 1 && c.joins.isEmpty }

theorem ofClauses_eq (c : ClauseSet) :
    ofClauses c =
      (ProjectionItem.ofProjection (ofTables c) c.projection).foldl withItem (ofTables c) := rfl

theorem ofTables_eq (c : ClauseSet) :
    ofTables c = ⟨(tablesOf c).reverse.flatMap tableEntries,
      (tablesOf c).length == 1 && c.joins.isEmpty, []⟩ := by
  rw [ofTables, foldl_withTable]
  simp [empty]

theorem projectionAliases_ofTables (c : ClauseSet) : (ofTables c).projectionAliases = [] := by
  rw [ofTables_eq]

theorem entryOfItem?_renamed (x y : Text) (i : ProjectionItem) :
    entryOfItem? (i.renamed x y) = (entryOfItem? i).map (rekey x y) := by
  unfold entryOfItem? ProjectionItem.renamed
  cases i.aliasName with
  | none => rfl
  | some a =>
      by_cases old : Text.lowercase a = Text.lowercase x <;>
        simp [Alias.renamed, rekey, old]

/-- A table whose own name is another one makes the same entries, the one of its alias for the new
name. -/
theorem tableEntries_renamed {r : TableRef}
    (other : Text.lowercase (TableRef.lastPart r.name) ≠ Text.lowercase x) (y : Text) :
    tableEntries (r.renamed x y) = (tableEntries r).map (rekey x y) := by
  have own : rekey x y (Text.lowercase (TableRef.lastPart r.name), r.name) =
      (Text.lowercase (TableRef.lastPart r.name), r.name) := if_neg other
  unfold tableEntries TableRef.renamed
  cases r.aliasName with
  | none => simp [own]
  | some a =>
      by_cases old : Text.lowercase a = Text.lowercase x
      · have entry : rekey x y (Text.lowercase a, r.name) = (Text.lowercase y, r.name) := if_pos old
        have key : Text.lowercase (Alias.renamed x y a) = Text.lowercase y := by
          simp [Alias.renamed, old]
        simp [own, entry, key]
      · have entry : rekey x y (Text.lowercase a, r.name) = (Text.lowercase a, r.name) := if_neg old
        have key : Alias.renamed x y a = a := if_neg old
        simp [own, entry, key]

/-! ### Aligned scopes -/

/-- Whether two scopes agree on all names but `x` and `y`. -/
structure Aligned (x y : Text) (s s' : Scope) : Prop where
  single : s'.singleTable = s.singleTable
  table : ∀ name, Text.lowercase name ≠ Text.lowercase x → Text.lowercase name ≠ Text.lowercase y →
    s'.table? name = s.table? name
  expression : ∀ name, Text.lowercase name ≠ Text.lowercase x →
    Text.lowercase name ≠ Text.lowercase y → s'.expression? name = s.expression? name

theorem Aligned.refl (x y : Text) (s : Scope) : Aligned x y s s :=
  ⟨rfl, fun _ _ _ => rfl, fun _ _ _ => rfl⟩

/-! ### Scopes of renamed items and tables -/

section Items

variable {items : List ProjectionItem} (none : s.projectionAliases = [])
  (none' : s'.projectionAliases = [])
include none none'

theorem projectionAliases_renamed :
    ((items.map (ProjectionItem.renamed x y)).foldl withItem s').projectionAliases =
      (items.foldl withItem s).projectionAliases.map (rekey x y) := by
  rw [foldl_withItem, foldl_withItem, none, none', List.append_nil, List.append_nil,
    ← List.map_reverse, List.filterMap_map, List.map_filterMap]
  exact List.filterMap_congr fun i _ => entryOfItem?_renamed x y i

/-- Renaming aliases of projection items keeps scopes aligned. -/
theorem Aligned.withItems (aligned : Aligned x y s s') (items : List ProjectionItem) :
    Aligned x y (items.foldl withItem s)
      ((items.map (ProjectionItem.renamed x y)).foldl withItem s') := by
  have aliases : ((items.map (ProjectionItem.renamed x y)).foldl withItem s').projectionAliases =
      _ := projectionAliases_renamed none none'
  refine ⟨?_, ?_, ?_⟩
  · rw [foldl_withItem, foldl_withItem]
    exact aligned.single
  · rw [foldl_withItem, foldl_withItem]
    exact aligned.table
  · intro name notOld notNew
    rw [expression?, aliases, lookup_rekey_other notOld notNew, expression?]

/-- The new alias stands for what the old one stands for. -/
theorem expression?_renamed
    (fresh : ∀ i ∈ items, ∀ a ∈ i.aliasName, Text.lowercase a ≠ Text.lowercase y) :
    ((items.map (ProjectionItem.renamed x y)).foldl withItem s').expression? y =
      (items.foldl withItem s).expression? x := by
  rw [expression?, projectionAliases_renamed none none', lookup_rekey_new, expression?]
  rw [foldl_withItem, none, List.append_nil]
  intro e mem
  obtain ⟨i, inside, entry⟩ := List.mem_filterMap.mp mem
  obtain ⟨a, named, rfl⟩ := Option.map_eq_some_iff.mp entry
  exact fresh i (List.mem_reverse.mp inside) a named

end Items

/-- Whether two scopes agree on all names but two, and the second of these is in the second scope
the table that the first one is in the first scope. -/
structure RenamesTable (x y : Text) (s s' : Scope) : Prop where
  aligned : Aligned x y s s'
  known : (s.table? x).isSome
  same : s'.table? y = s.table? x

theorem RenamesTable.withItems (renames : RenamesTable x y s s') (none : s.projectionAliases = [])
    (none' : s'.projectionAliases = []) (items : List ProjectionItem) :
    RenamesTable x y (items.foldl withItem s)
      ((items.map (ProjectionItem.renamed x y)).foldl withItem s') := by
  refine ⟨renames.aligned.withItems none none' items, ?_, ?_⟩
  · rw [foldl_withItem]
    exact renames.known
  · rw [foldl_withItem, foldl_withItem]
    exact renames.same

/-- Renaming an alias of tables whose own names are other ones renames it in the scope. -/
theorem renamesTable_ofTables {c d : ClauseSet}
    (tables : tablesOf d = (tablesOf c).map (TableRef.renamed x y))
    (joins : d.joins.isEmpty = c.joins.isEmpty)
    (named : ∃ r ∈ tablesOf c, r.aliasName = some (Text.lowercase x))
    (others : ∀ r ∈ tablesOf c, ∀ z ∈ [x, y],
      Text.lowercase (TableRef.lastPart r.name) ≠ Text.lowercase z)
    (fresh : ∀ r ∈ tablesOf c, ∀ a ∈ r.aliasName, Text.lowercase a ≠ Text.lowercase y) :
    RenamesTable x y (ofTables c) (ofTables d) := by
  have entries : (tablesOf d).reverse.flatMap tableEntries =
      ((tablesOf c).reverse.flatMap tableEntries).map (rekey x y) := by
    rw [tables, ← List.map_reverse, List.flatMap_map, List.map_flatMap]
    refine List.flatMap_congr fun r mem => ?_
    exact tableEntries_renamed (others r (List.mem_reverse.mp mem) x (by simp)) y
  have noNew : ∀ e ∈ (tablesOf c).reverse.flatMap tableEntries, e.1 ≠ Text.lowercase y := by
    intro e mem
    obtain ⟨r, inside, entry⟩ := List.mem_flatMap.mp mem
    have here := List.mem_reverse.mp inside
    rcases List.mem_append.mp entry with named | own
    · obtain ⟨a, isAlias, rfl⟩ := Option.map_eq_some_iff.mp (Option.mem_toList.mp named)
      exact fresh r here a isAlias
    · obtain rfl := List.mem_singleton.mp own
      exact others r here y (by simp)
  rw [ofTables_eq, ofTables_eq, entries, tables, List.length_map, joins]
  refine ⟨⟨rfl, fun name old new => lookup_rekey_other old new, fun _ _ _ => rfl⟩, ?_,
    lookup_rekey_new noNew⟩
  obtain ⟨r, mem, isAlias⟩ := named
  have entry : (Text.lowercase x, r.name) ∈ tableEntries r := by simp [tableEntries, isAlias]
  exact lookup_isSome_of_mem (List.mem_flatMap.mpr ⟨r, List.mem_reverse.mpr mem, entry⟩)

/-- Whether two scopes agree on all names but two, and the second of these stands in the second
scope for the expression that the first one stands for in the first scope. -/
structure RenamesExpression (x y : Text) (s s' : Scope) : Prop where
  aligned : Aligned x y s s'
  known : (s.expression? x).isSome
  same : s'.expression? y = s.expression? x

/-- Renaming an alias of projection items renames it in the scope. -/
theorem Aligned.renamesExpression {items : List ProjectionItem} (aligned : Aligned x y s s')
    (none : s.projectionAliases = []) (none' : s'.projectionAliases = [])
    (named : ∃ i ∈ items, i.aliasName = some (Text.lowercase x))
    (fresh : ∀ i ∈ items, ∀ a ∈ i.aliasName, Text.lowercase a ≠ Text.lowercase y) :
    RenamesExpression x y (items.foldl withItem s)
      ((items.map (ProjectionItem.renamed x y)).foldl withItem s') := by
  refine ⟨aligned.withItems none none' items, ?_, expression?_renamed none none' fresh⟩
  obtain ⟨i, mem, isAlias⟩ := named
  have entry : entryOfItem? i = some (Text.lowercase x, i.expression) := by
    rw [entryOfItem?, isAlias, Option.map_some, Text.lowercase_lowercase]
  have known : (Text.lowercase x, i.expression) ∈ items.reverse.filterMap entryOfItem? :=
    List.mem_filterMap.mpr ⟨i, List.mem_reverse.mpr mem, entry⟩
  rw [foldl_withItem]
  exact lookup_isSome_of_mem (List.mem_append_left _ known)

end SqlGrader.Scope

namespace SqlGrader.Token.Neutral

variable {f : Token → Token} (neutral : Neutral f)
include neutral

/-- Points and parentheses are the same behind a token. -/
theorem after (next : Option Token) :
    (next.map f).any Scope.isDot = next.any Scope.isDot ∧
      (next.map f).all (·.kind != .openParen) = next.all (·.kind != .openParen) := by
  cases next <;> simp [neutral.isDot, neutral.kind]

end SqlGrader.Token.Neutral

namespace SqlGrader.Scope.Aligned

open Token

variable {x y : Text} {s s' : Scope} {t : Token} {ts : List Token} {before after : Option Token}
  {withAliases : Bool} (aligned : Aligned x y s s') (first : IsName x) (second : IsName y)
include aligned first second

/-- A token that is neither of the two names stands for the same. -/
theorem readsAlike_of_other (old : ¬ t.Names x) (new : ¬ t.Names y) :
    ReadsAlike (renamed x y) s s' withAliases before t after := by
  obtain ⟨points, parens⟩ := (neutral_renamed first second).after after
  have names : t.kind = .word → Text.lowercase t.text ≠ Text.lowercase x ∧
      Text.lowercase t.text ≠ Text.lowercase y := fun word =>
    ⟨fun same => old ((names_of_word word).mpr same),
      fun same => new ((names_of_word word).mpr same)⟩
  refine ⟨?_, ?_, fun _ _ => by rw [renamed_of_not_names old]⟩
  · rw [renamed_of_not_names old, qualifier?, qualifier?, points]
    split
    next applies =>
      simp only [Bool.and_eq_true, beq_iff_eq] at applies
      obtain ⟨notOld, notNew⟩ := names applies.1.1
      exact aligned.table t.text notOld notNew
    next => rfl
  · rw [renamed_of_not_names old, reference?, reference?, points, parens]
    split
    next applies =>
      simp only [Bool.and_eq_true, beq_iff_eq] at applies
      obtain ⟨notOld, notNew⟩ := names applies.1.1.1.2
      exact aligned.expression t.text notOld notNew
    next => rfl

/-- A qualifier stands for the table of the new name. -/
theorem readsAlike_of_qualifier (known : (s.table? x).isSome) (same : s'.table? y = s.table? x)
    (new : ¬ t.Names y) (qualifier : IsQualifier x before t after) :
    ReadsAlike (renamed x y) s s' withAliases before t after := by
  by_cases old : t.Names x
  · obtain ⟨word, noPoint, point⟩ := qualifier old
    obtain ⟨points, parens⟩ := (neutral_renamed first second).after after
    have table : s.table? t.text = s.table? x := by
      rw [table?, (names_of_word word).mp old, table?]
    have found : s.qualifier? (before.any isDot) t after = s.table? x := by
      simp [qualifier?, word, noPoint, point, table]
    refine ⟨?_, ?_, fun none _ => ?_⟩
    · rw [found, renamed_of_names word old, ← same]
      simp [qualifier?, word, noPoint, points, point]
    · rw [reference?, reference?, points, point]
      simp
    · rw [← found, none] at known
      cases known
  · exact aligned.readsAlike_of_other first second old new

/-- A reference stands for the expression of the new name. -/
theorem readsAlike_of_reference (known : (s.expression? x).isSome)
    (same : s'.expression? y = s.expression? x) (new : ¬ t.Names y)
    (reference : IsReference x before t after) :
    ReadsAlike (renamed x y) s s' true before t after := by
  by_cases old : t.Names x
  · obtain ⟨word, noPoint, noPoint', noParen⟩ := reference old
    rw [Bool.not_eq_true] at noPoint noPoint'
    obtain ⟨points, parens⟩ := (neutral_renamed first second).after after
    have expression : s.expression? t.text = s.expression? x := by
      rw [expression?, (names_of_word word).mp old, expression?]
    have found : s.reference? true (before.any isDot) t after = s.expression? x := by
      simp [reference?, word, noPoint, noPoint', noParen, expression]
    refine ⟨?_, ?_, fun _ none => ?_⟩
    · rw [qualifier?, qualifier?, points, noPoint']
      simp
    · rw [found, renamed_of_names word old, ← same]
      simp [reference?, word, noPoint, points, parens, noPoint', noParen]
    · rw [← found, none] at known
      cases known
  · exact aligned.readsAlike_of_other first second old new

/-! ### Canonical texts -/

theorem canonicalTokens_of_absent (absent : ∀ t ∈ ts, ¬ t.Names x) (fresh : ∀ t ∈ ts, ¬ t.Names y) :
    s'.canonicalTokens withAliases (ts.map (renamed x y)) = s.canonicalTokens withAliases ts :=
  canonicalTokens_congr (neutral_renamed first second).isDot aligned.single
    (.of_forall fun t mem _ _ =>
      aligned.readsAlike_of_other first second (absent t mem) (fresh t mem))

theorem canonical_of_absent {a : Text}
    (absent : ∀ t ∈ tokensOf a, ¬ t.Names x ∧ ¬ t.Names y) :
    s'.canonical withAliases a = s.canonical withAliases a := by
  unfold tokensOf at absent
  unfold canonical
  cases read : tokenize a with
  | error e => rfl
  | ok ts =>
      rw [read] at absent
      have old : ∀ t ∈ ts, ¬ t.Names x := fun t mem => (absent t mem).1
      have new : ∀ t ∈ ts, ¬ t.Names y := fun t mem => (absent t mem).2
      show s'.canonicalTokens withAliases ts = s.canonicalTokens withAliases ts
      rw [← aligned.canonicalTokens_of_absent first second old new, map_renamed_of_absent old]

theorem canonicalTokens_of_qualifies (known : (s.table? x).isSome)
    (same : s'.table? y = s.table? x) (fresh : ∀ t ∈ ts, ¬ t.Names y) (qualifies : Qualifies x ts) :
    s'.canonicalTokens withAliases (ts.map (renamed x y)) = s.canonicalTokens withAliases ts :=
  canonicalTokens_congr (neutral_renamed first second).isDot aligned.single
    (qualifies.imp fun _ t _ mem here =>
      aligned.readsAlike_of_qualifier first second known same (fresh t mem) here)

theorem canonicalTokens_of_refers (known : (s.expression? x).isSome)
    (same : s'.expression? y = s.expression? x) (fresh : ∀ t ∈ ts, ¬ t.Names y)
    (refers : Refers x ts) :
    s'.canonicalTokens true (ts.map (renamed x y)) = s.canonicalTokens true ts :=
  canonicalTokens_congr (neutral_renamed first second).isDot aligned.single
    (refers.imp fun _ t _ mem here =>
      aligned.readsAlike_of_reference first second known same (fresh t mem) here)

end SqlGrader.Scope.Aligned
