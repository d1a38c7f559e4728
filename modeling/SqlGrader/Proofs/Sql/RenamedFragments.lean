import SqlGrader.Proofs.Sql.Clauses
import SqlGrader.Proofs.Sql.ScopeRenaming
/-!
# Fragments of a statement and of the renamed statement

The clauses of a renamed statement are the renamed clauses, and their items and
conditions are those of the statement, renamed one by one. Projection items and
tables keep what they name, and only their aliases are renamed.
-/

namespace SqlGrader

open Token Scope

variable {x y a b : Text} {s s' : Scope} {t : Token} {ts us : List Token} {withAliases : Bool}
  {kind : ClauseKind}

namespace Token

/-- Tokens that are renamed to other clean tokens, among which the new name does not occur. -/
structure Renames (x y : Text) (ts : List Token) : Prop where
  first : IsName x
  second : IsName y
  clean : Clean ts
  clean_map : Clean (ts.map (renamed x y))
  fresh : ∀ t ∈ ts, ¬ t.Names y

namespace Renames

theorem neutral (renames : Renames x y ts) : Neutral (renamed x y) :=
  neutral_renamed renames.first renames.second

theorem of_isInfix (renames : Renames x y ts) (part : us <:+: ts) : Renames x y us :=
  ⟨renames.first, renames.second, renames.clean.of_isInfix part,
    renames.clean_map.of_isInfix (part.map _), fun t mem => renames.fresh t (part.subset mem)⟩

theorem atStart (renames : Renames x y ts) : Renames x y (atStart ts) := by
  refine ⟨renames.first, renames.second, renames.clean.atStart, ?_, ?_⟩
  · rw [renames.neutral.map_atStart]
    exact renames.clean_map.atStart
  · cases ts with
    | nil => exact renames.fresh
    | cons t ts =>
        obtain ⟨here, rest⟩ := List.forall_mem_cons.mp renames.fresh
        exact List.forall_mem_cons.mpr ⟨here, rest⟩

theorem of_item (renames : Renames x y ts) (mem : us ∈ itemTokens ts) : Renames x y us := by
  obtain ⟨part, within, rfl⟩ := of_mem_itemTokens mem
  exact (renames.atStart.of_isInfix within).atStart

end Renames

/-! ### Pieces, items and tables -/

theorem itemTokens_map {f : Token → Token} (neutral : Neutral f) (ts : List Token) :
    itemTokens (ts.map f) = (itemTokens ts).map (List.map f) := by
  have blind : ∀ (s : Unit) t, ((), Items.isComma (f t)) = ((), Items.isComma t) :=
    fun _ t => by rw [neutral.isComma]
  rw [itemTokens, ← neutral.map_atStart, splitTopLevel, neutral.splitTopLevelWith _ blind,
    itemTokens, splitTopLevel, List.map_map, List.map_map]
  exact List.map_congr_left fun piece _ => (neutral.map_atStart piece).symm

theorem startsWith_map {w : String} {f : Token → Token} (neutral : Neutral f)
    (spaced : ∀ t, (f t).spaced = t.spaced) (known : w ∈ Keyword.structural) (ts : List Token) :
    startsWith w (ts.map f) = startsWith w ts := by
  match ts with
  | [] | [_] => rfl
  | t :: u :: us => simp only [List.map_cons, startsWith, neutral.isWord t known, spaced]

theorem selected_map {f : Token → Token} (neutral : Neutral f)
    (spaced : ∀ t, (f t).spaced = t.spaced) (ts : List Token) :
    selected (ts.map f) = (selected ts).map f := by
  rw [selected, selected, startsWith_map neutral spaced (by decide),
    startsWith_map neutral spaced (by decide), ← List.map_tail, apply_ite (List.map f)]

/-- An item of a renamed projection is the item, its alias renamed. -/
theorem itemOf_map_renamed (second : IsName y) (ends : Ends x ts)
    (same : s'.canonicalTokens false ((Alias.splitEnd ts).1.map (renamed x y)) =
      s.canonicalTokens false (Alias.splitEnd ts).1) :
    itemOf s' (ts.map (renamed x y)) = (itemOf s ts).renamed x y := by
  rw [itemOf, splitEnd_map_renamed second ends, same]
  rfl

/-- A table whose name does not hold the old name keeps it. -/
theorem tableOf_map_renamed (first : IsName x) (second : IsName y) (only : OnlyAlias x ts) :
    tableOf (ts.map (renamed x y)) = (tableOf ts).renamed x y := by
  rw [tableOf, splitEnd_map_renamed second (only.ends first), map_renamed_of_absent only.body]
  rfl

end Token

/-- The alias of a table is not the new name. -/
theorem Token.tableOf_fresh (renames : Renames x y ts) :
    ∀ n ∈ (tableOf ts).aliasName, Text.lowercase n ≠ Text.lowercase y := by
  intro n named
  obtain ⟨t, mem, rfl⟩ := exists_of_splitEnd named
  exact renames.fresh t mem

/-- Whether the stretches of a list have the same canonical texts in two scopes, once they are
renamed in the second one. -/
def Scope.KeepsStretches (x y : Text) (s s' : Scope) (withAliases : Bool) (ts : List Token) :
    Prop :=
  ∀ piece, Stretch piece ts →
    s'.canonicalTokens withAliases (piece.map (renamed x y)) = s.canonicalTokens withAliases piece

/-- Without the name, aligned scopes read alike. -/
theorem Scope.Aligned.keepsStretches (aligned : Aligned x y s s') (renames : Renames x y ts)
    (absent : ∀ t ∈ ts, ¬ t.Names x) (withAliases : Bool) :
    KeepsStretches x y s s' withAliases ts := by
  intro piece stretch
  exact aligned.canonicalTokens_of_absent renames.first renames.second
    (fun t mem => absent t (stretch.isInfix.subset mem))
    (fun t mem => renames.fresh t (stretch.isInfix.subset mem))

/-- Where the name is a qualifier of a table, the scopes read alike. -/
theorem Scope.RenamesTable.keepsStretches (tables : RenamesTable x y s s')
    (renames : Renames x y ts) (qualifies : Qualifies x ts) (withAliases : Bool) :
    KeepsStretches x y s s' withAliases ts := by
  intro piece stretch
  exact tables.aligned.canonicalTokens_of_qualifies renames.first renames.second tables.known
    tables.same (fun t mem => renames.fresh t (stretch.isInfix.subset mem))
    (qualifies.of_stretch (local_isQualifier x) stretch)

/-- Where the name is a reference to an expression, the scopes read alike. -/
theorem Scope.RenamesExpression.keepsStretches (expressions : RenamesExpression x y s s')
    (renames : Renames x y ts) (refers : Refers x ts) : KeepsStretches x y s s' true ts := by
  intro piece stretch
  exact expressions.aligned.canonicalTokens_of_refers renames.first renames.second
    expressions.known expressions.same (fun t mem => renames.fresh t (stretch.isInfix.subset mem))
    (refers.of_stretch (local_isReference x) stretch)

/-! ### Renamed texts -/

/-- Whether a text is that of clean tokens and another one that of the renamed tokens. -/
structure RenamedText (x y a b : Text) : Prop where
  renames : Renames x y (tokensOf a)
  left : a = render (tokensOf a)
  right : b = render ((tokensOf a).map (renamed x y))

namespace RenamedText

theorem of_renames (renames : Renames x y ts) :
    RenamedText x y (render ts) (render (ts.map (renamed x y))) := by
  have read := tokensOf_render renames.clean.legible
  refine ⟨?_, ?_, ?_⟩
  · rw [read]
    exact renames.atStart
  · rw [read, render_atStart]
  · rw [read, renames.neutral.map_atStart, render_atStart]

variable (pair : RenamedText x y a b)
include pair

theorem atStart_eq : atStart (tokensOf a) = tokensOf a := by
  have read := tokensOf_render pair.renames.clean.legible
  rwa [← pair.left, eq_comm] at read

theorem isEmpty_eq : b.isEmpty = a.isEmpty := by
  have left := Section.isEmpty_render pair.renames.clean.legible
  have right := Section.isEmpty_render pair.renames.clean_map.legible
  rw [← pair.left] at left
  rw [← pair.right, List.isEmpty_map] at right
  exact right.trans left.symm

/-- A text without the name stays as it is. -/
theorem eq_of_absent (absent : ∀ t ∈ tokensOf a, ¬ t.Names x) : b = a := by
  rw [pair.right, map_renamed_of_absent absent, ← pair.left]

/-- A fragment is read as the renamed fragment is. -/
theorem canonical (same : KeepsStretches x y s s' withAliases (tokensOf a)) :
    s'.canonical withAliases b = s.canonical withAliases a := by
  have left := canonical_render s withAliases pair.renames.clean.legible
  have right := canonical_render s' withAliases pair.renames.clean_map.legible
  rw [← pair.left] at left
  rw [← pair.right] at right
  rw [left, right]
  exact same (tokensOf a) (.refl (tokensOf a))

/-- Items are renamed one by one. -/
theorem items (same : KeepsStretches x y s s' true (tokensOf a)) :
    (Items.ofText b).map (s'.canonical true) = (Items.ofText a).map (s.canonical true) := by
  have neutral := pair.renames.neutral
  have blind : ∀ (s : Unit) t, ((), Items.isComma (t.renamed x y)) = ((), Items.isComma t) :=
    fun _ t => by rw [neutral.isComma]
  have left := canonicalItems_render s pair.renames.clean.legible
  have right := canonicalItems_render s' pair.renames.clean_map.legible
  rw [pair.atStart_eq, ← pair.left] at left
  rw [← neutral.map_atStart, pair.atStart_eq, ← pair.right, splitTopLevel,
    neutral.splitTopLevelWith _ blind, List.map_map] at right
  rw [left, right]
  exact List.map_congr_left fun piece mem => same piece (pair.renames.clean.stretch_item mem)

/-- Conditions are renamed one by one. -/
theorem conditions (same : KeepsStretches x y s s' withAliases (tokensOf a)) :
    ((Conditions.ofText b).map fun t =>
        s'.canonical withAliases (Statement.withoutOuterParens t)) =
      (Conditions.ofText a).map fun t =>
        s.canonical withAliases (Statement.withoutOuterParens t) := by
  have neutral := pair.renames.neutral
  have left := canonicalConditions_render s withAliases pair.renames.clean
  have right := canonicalConditions_render s' withAliases pair.renames.clean_map
  rw [pair.atStart_eq, ← pair.left] at left
  rw [← neutral.map_atStart, pair.atStart_eq, ← pair.right, Conditions.split,
    neutral.splitTopLevelWith _ neutral.joinsConditions, List.map_map] at right
  rw [left, right]
  refine List.map_congr_left fun piece mem => ?_
  have inside := pair.renames.clean.stretch_condition mem
  have unwraps := (pair.renames.clean.of_isInfix inside.isInfix).stretch_unwrapped
  show s'.canonicalTokens withAliases (unwrapped (piece.map (renamed x y))) = _
  rw [unwrapped_map neutral]
  exact same _ (unwraps.trans inside)

theorem map_tokensOf_itemTexts :
    (itemTexts a).map tokensOf = itemTokens (selected (tokensOf a)) := by
  have clean := pair.renames.clean
  conv_lhs => rw [pair.left, itemTexts_render clean]
  exact map_tokensOf_items (clean.of_isInfix (selected_isSuffix _).isInfix)

theorem renames_item {item : Text} (mem : item ∈ itemTexts a) : Renames x y (tokensOf item) := by
  refine (pair.renames.of_isInfix (selected_isSuffix _).isInfix).of_item ?_
  rw [← pair.map_tokensOf_itemTexts]
  exact List.mem_map_of_mem mem

/-- What is a qualifier in a projection is one in its items. -/
theorem qualifies_item {item : Text} (qualifies : Qualifies x (tokensOf a))
    (mem : item ∈ itemTexts a) : Qualifies x (tokensOf item) := by
  have inside : tokensOf item ∈ itemTokens (selected (tokensOf a)) := by
    rw [← pair.map_tokensOf_itemTexts]
    exact List.mem_map_of_mem mem
  obtain ⟨before, selects⟩ := selected_isSuffix (tokensOf a)
  rw [← selects] at qualifies
  have clean := (pair.renames.of_isInfix (selected_isSuffix _).isInfix).clean.atStart
  obtain ⟨piece, cut, same⟩ := List.mem_map.mp inside
  have rest : Qualifies x (selected (tokensOf a)) := qualifies.append_right (local_isQualifier x)
  have item : Qualifies x piece :=
    rest.atStart.of_stretch (local_isQualifier x) (clean.stretch_item cut)
  rw [← same]
  exact item.atStart

/-- The items of a projection are those of its texts, and one for a `DISTINCT`. -/
theorem projection_eq (s : Scope) :
    ProjectionItem.ofProjection s a =
      (if startsWith "DISTINCT" (tokensOf a) then [⟨"DISTINCT".toList, none⟩] else []) ++
        (itemTexts a).map fun item => itemOf s (tokensOf item) := by
  have items := projection_render s pair.renames.clean
  rwa [← pair.left, ← pair.map_tokensOf_itemTexts, List.map_map] at items

/-- The new name is no alias of the projection. -/
theorem aliases_fresh {i : ProjectionItem} (mem : i ∈ ProjectionItem.ofProjection s a) :
    ∀ n ∈ i.aliasName, Text.lowercase n ≠ Text.lowercase y := by
  intro n named
  rw [pair.projection_eq] at mem
  rcases List.mem_append.mp mem with distinct | item
  · split at distinct
    · obtain rfl := List.mem_singleton.mp distinct
      cases named
    · cases distinct
  · obtain ⟨item, inside, rfl⟩ := List.mem_map.mp item
    obtain ⟨t, mem, rfl⟩ := exists_of_splitEnd named
    exact (pair.renames_item inside).fresh t mem

/-- The items of a renamed projection are the items of the projection, their aliases renamed. -/
theorem projection (ends : ∀ item ∈ itemTexts a, Ends x (tokensOf item))
    (same : ∀ item ∈ itemTexts a,
      s'.canonicalTokens false ((Alias.splitEnd (tokensOf item)).1.map (renamed x y)) =
        s.canonicalTokens false (Alias.splitEnd (tokensOf item)).1) :
    ProjectionItem.ofProjection s' b =
      (ProjectionItem.ofProjection s a).map (ProjectionItem.renamed x y) := by
  have neutral := pair.renames.neutral
  have spaced := spaced_renamed x y
  have right := projection_render s' pair.renames.clean_map
  rw [← pair.right, startsWith_map neutral spaced (by decide), selected_map neutral spaced,
    itemTokens_map neutral, ← pair.map_tokensOf_itemTexts] at right
  rw [pair.projection_eq, right, List.map_append, List.map_map, List.map_map, List.map_map]
  congr 1
  · cases startsWith "DISTINCT" (tokensOf a) <;> rfl
  · exact List.map_congr_left fun item mem =>
      itemOf_map_renamed pair.renames.second (ends item mem) (same item mem)

/-- A renamed table is the table, its alias renamed. -/
theorem table? (only : OnlyAlias x (tokensOf a)) :
    TableRef.ofText? b = (TableRef.ofText? a).map (TableRef.renamed x y) := by
  have left := table_render pair.renames.clean.legible
  have right := table_render pair.renames.clean_map.legible
  rw [← pair.left, pair.atStart_eq] at left
  rw [← pair.right, ← pair.renames.neutral.map_atStart, pair.atStart_eq,
    tableOf_map_renamed pair.renames.first pair.renames.second only] at right
  simp only [List.map_eq_nil_iff] at right
  rw [left, right]
  split <;> rfl

theorem table?_fresh {r : TableRef} (found : TableRef.ofText? a = some r) :
    ∀ n ∈ r.aliasName, Text.lowercase n ≠ Text.lowercase y := by
  have left := table_render pair.renames.clean.legible
  rw [← pair.left, found, pair.atStart_eq] at left
  split at left
  · cases left
  · rw [Option.some.inj left]
    exact tableOf_fresh pair.renames

/-- The tables of a renamed source are those of the source, their aliases renamed. -/
theorem tables (only : ∀ item ∈ Items.ofText a, OnlyAlias x (tokensOf item)) :
    (Items.ofText b).filterMap TableRef.ofText? =
      ((Items.ofText a).filterMap TableRef.ofText?).map (TableRef.renamed x y) := by
  have neutral := pair.renames.neutral
  have left := tables_render pair.renames.clean.legible
  have right := tables_render pair.renames.clean_map.legible
  have items := map_tokensOf_items pair.renames.clean
  rw [← pair.left] at left items
  rw [← pair.right, itemTokens_map neutral] at right
  rw [left, right, ← items, List.map_map, List.map_map, List.map_map, List.map_map]
  exact List.map_congr_left fun item mem =>
    tableOf_map_renamed pair.renames.first pair.renames.second (only item mem)

theorem tables_fresh {r : TableRef} (mem : r ∈ (Items.ofText a).filterMap TableRef.ofText?) :
    ∀ n ∈ r.aliasName, Text.lowercase n ≠ Text.lowercase y := by
  have left := tables_render pair.renames.clean.legible
  rw [← pair.left] at left
  rw [left] at mem
  obtain ⟨piece, inside, rfl⟩ := List.mem_map.mp mem
  exact tableOf_fresh (pair.renames.of_item inside)

end RenamedText

/-! ### Clauses -/

namespace ClauseSet

open Section

/-- The clauses of a renamed statement are the renamed clauses. -/
theorem text_renamed (renames : Renames x y ts) (noJoins : kind ≠ .joins) :
    RenamedText x y ((ofTokens ts).text kind) ((ofTokens (ts.map (renamed x y))).text kind) := by
  have sections := splitFrom_map renames.neutral none 0 ts
  rw [text_ofTokens renames.clean.legible kind noJoins,
    text_ofTokens renames.clean_map.legible kind noJoins, Section.ofTokens, Section.ofTokens,
    sections, clauseTokens_map]
  exact .of_renames (renames.of_isInfix (clauseTokens_within kind ts))

theorem joins_renamed (renames : Renames x y ts) :
    (ofTokens (ts.map (renamed x y))).joins =
      (joinTokens (Section.ofTokens ts)).map fun join => render (join.map (renamed x y)) := by
  rw [joins_ofTokens renames.clean_map.legible, Section.ofTokens,
    splitFrom_map renames.neutral, joinTokens_map, List.map_map]
  rfl

/-- A renamed statement has the clauses that the statement has. -/
theorem isPresent_renamed (renames : Renames x y ts) (kind : ClauseKind) :
    (ofTokens (ts.map (renamed x y))).isPresent kind = (ofTokens ts).isPresent kind := by
  refine (isPresent_congr (fun kind noJoins => ?_) ?_ kind).symm
  · exact (text_renamed renames noJoins).isEmpty_eq.symm
  · rw [joins_renamed renames, joins_ofTokens renames.clean.legible, List.length_map,
      List.length_map]

/-- A renamed statement is worth comparing by clauses if the statement is. -/
theorem hasCore_renamed (renames : Renames x y ts) :
    (ofTokens (ts.map (renamed x y))).hasCore = (ofTokens ts).hasCore :=
  hasCore_congr (isPresent_renamed renames)

end ClauseSet

end SqlGrader
