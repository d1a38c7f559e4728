import SqlGrader.Proofs.Sql.JoinBounds
import SqlGrader.Proofs.Sql.Renaming
import SqlGrader.Proofs.Sql.Spacing
/-!
# References with the default schema

The default schema before the name of a table is taken off where the name is read. An alias is
looked for at the end of a reference, and what may stand before an alias is told by the last two
tokens, so the schema and the point do not get in its way.
-/

namespace SqlGrader

open Token Lexer

/-- Whether the token is a name of its own: an unquoted word whose letter case counts. -/
def Token.IsPlainName (t : Token) : Prop := t.kind = .word ∧ t.isFoldable = false

instance (t : Token) : Decidable t.IsPlainName := inferInstanceAs (Decidable (_ ∧ _))

/-- What may follow the name in a reference to a table: its alias, with `AS` or without. -/
inductive IsAliasPart : List Token → Prop
  | none : IsAliasPart []
  | bare {a : Token} (name : Alias.isName a) : IsAliasPart [a]
  | as {as a : Token} (word : as.isWord "AS") (name : Alias.isName a) : IsAliasPart [as, a]

/-- The default schema and a point, as they are written before a name. -/
structure IsSchema (schema point : Token) : Prop where
  word : schema.isWord "PUBLIC"
  symbol : point.kind = .symbol
  text : point.text = ['.']

instance (schema point : Token) : Decidable (IsSchema schema point) :=
  decidable_of_iff (schema.isWord "PUBLIC" ∧ point.kind = .symbol ∧ point.text = ['.'])
    ⟨fun ⟨a, b, c⟩ => ⟨a, b, c⟩, fun ⟨a, b, c⟩ => ⟨a, b, c⟩⟩

variable {schema point name : Token} {ts us aliased : List Token} {t : Token} {r x : Text}

/-! ### Names -/

namespace TableRef

theorem withoutDefaultSchema_append {s : Text} (schema : Text.upper s = "PUBLIC".toList)
    (nonempty : x ≠ []) : withoutDefaultSchema (s ++ '.' :: x) = x := by
  obtain ⟨c, cs, rfl⟩ := List.exists_cons_of_ne_nil nonempty
  have found : Text.dropStartIgnoringCase? "public.".toList (s ++ '.' :: c :: cs) =
      some (c :: cs) := by
    refine Text.dropStartIgnoringCase?_eq_some.mpr ⟨s ++ ['.'], by simp, ?_⟩
    have point : Text.upper ['.'] = ['.'] := by decide
    have whole : Text.upper "public.".toList = "PUBLIC".toList ++ ['.'] := by decide
    rw [whole, ← schema, ← point, Text.upper, Text.upper, List.map_append]
    rfl
  rw [withoutDefaultSchema, found]
  rfl

/-- A name without a point has no schema. -/
theorem withoutDefaultSchema_of_free (free : '.' ∉ x) : withoutDefaultSchema x = x := by
  have none : ∀ s : Text, '.' ∈ Text.upper s → Text.dropStartIgnoringCase? s x = none := by
    intro s point
    refine Option.eq_none_iff_forall_not_mem.mpr fun rest found => free ?_
    obtain ⟨start, rfl, same⟩ := Text.dropStartIgnoringCase?_eq_some.mp found
    rw [← same] at point
    obtain ⟨c, mem, upper⟩ := List.mem_map.mp point
    have here := (Text.toUpper_eq_iff (by decide)).mp upper
    exact List.mem_append_left _ (here ▸ mem)
  rw [withoutDefaultSchema, none _ (by decide), none _ (by decide)]
  rfl

end TableRef

/-! ### The reference among its tokens -/

theorem Token.tableOf_map_unspaced (ts : List Token) : tableOf (ts.map unspaced) = tableOf ts := by
  rw [tableOf, cosmetic_unspaced.splitEnd, TableRef.nameOf_map_unspaced, tableOf]

theorem Token.IsPlainName.not_isWord (plain : name.IsPlainName) {w : String}
    (reserved : w ∈ Keyword.reserved) : name.isWord w = false := by
  refine Bool.eq_false_iff.mpr fun word => ?_
  have foldable : name.isFoldable := by
    rw [isFoldable, Keyword.isFoldable, isReserved_of_isWord reserved word, plain.1]
    rfl
  rw [plain.2] at foldable
  cases foldable

namespace Alias

/-- What an alias leaves is the start of the reference. -/
theorem splitEnd_isPrefix (ts : List Token) : (splitEnd ts).1 <+: ts := by
  match reversed : ts.reverse with
  | [] | [_] =>
      rw [splitEnd, reversed]
  | last :: before :: rest =>
      have whole : ts = rest.reverse ++ [before] ++ [last] := by
        rw [← List.reverse_reverse ts, reversed]
        simp
      rw [splitEnd_of_reverse reversed]
      split_ifs
      · exact List.prefix_rfl
      · exact ⟨[before] ++ [last], by rw [whole, List.append_assoc]⟩
      · exact ⟨[last], by rw [whole, List.reverse_cons]⟩
      · exact List.prefix_rfl

theorem splitEnd_ne_nil (nonempty : ts ≠ []) : (splitEnd ts).1 ≠ [] := by
  match reversed : ts.reverse with
  | [] | [_] =>
      rw [splitEnd, reversed]
      exact nonempty
  | last :: before :: rest =>
      rw [splitEnd_of_reverse reversed]
      split_ifs with _ as
      · exact nonempty
      · rw [Bool.and_eq_true, Bool.not_eq_true', List.isEmpty_eq_false_iff] at as
        simpa using as.2
      · simp
      · exact nonempty

theorem exists_splitEnd (t : Token) (ts : List Token) :
    ∃ body, (splitEnd (t :: ts)).1 = t :: body := by
  obtain ⟨rest, whole⟩ := splitEnd_isPrefix (t :: ts)
  obtain ⟨u, body, front⟩ := List.exists_cons_of_ne_nil (splitEnd_ne_nil (List.cons_ne_nil t ts))
  rw [front] at whole
  exact ⟨body, by rw [front, (List.cons.inj whole).1]⟩

/-- The schema belongs to what stands before the alias. -/
theorem splitEnd_schema (isSchema : IsSchema schema point) (noAs : name.isWord "AS" = false)
    (ts : List Token) :
    splitEnd (schema :: point :: name :: ts) =
      (schema :: point :: (splitEnd (name :: ts)).1, (splitEnd (name :: ts)).2) := by
  have noWord : point.isWord "AS" = false := by simp [Token.isWord, isSchema.symbol]
  have noEnd : endsExpression point = false := by simp [endsExpression, isSchema.symbol]
  rcases reversed : (name :: ts).reverse with _ | ⟨last, _ | ⟨before, rest⟩⟩
  · simp at reversed
  · obtain ⟨rfl, rfl⟩ : name = last ∧ ts = [] := by
      simpa using List.reverse_eq_iff.mp reversed
    have ends : [schema, point, name].reverse = [name, point, schema] := rfl
    rw [splitEnd_of_reverse ends, noWord, noEnd]
    simp [splitEnd]
  · have ends : (schema :: point :: name :: ts).reverse =
        last :: before :: (rest ++ [point, schema]) := by
      rw [List.reverse_cons, List.reverse_cons, reversed]
      simp
    have counted : (before.isWord "AS" && !(rest ++ [point, schema]).isEmpty) =
        (before.isWord "AS" && !rest.isEmpty) := by
      cases rest with
      | cons => rfl
      | nil =>
          obtain ⟨rfl, -⟩ : name = before ∧ ts = [last] := by
            simpa using List.reverse_eq_iff.mp reversed
          simp [noAs]
    rw [splitEnd_of_reverse ends, splitEnd_of_reverse reversed, counted]
    split_ifs <;> simp

end Alias

namespace Token

/-- The schema is taken off the name, if that has no point of its own. -/
theorem tableOf_schema (isSchema : IsSchema schema point) (word : name.kind = .word)
    (noAs : name.isWord "AS" = false) (text : name.text ≠ [])
    (free : ∀ u ∈ (Alias.splitEnd (name :: ts)).1, '.' ∉ u.text) :
    tableOf (schema :: point :: name :: ts) = tableOf (name :: ts) := by
  obtain ⟨body, front⟩ := Alias.exists_splitEnd name ts
  rw [tableOf, tableOf, Alias.splitEnd_schema isSchema noAs, front]
  rw [front] at free
  have written : (schema :: point :: name :: body).flatMap (·.text) =
      schema.text ++ '.' :: (name :: body).flatMap (·.text) := by
    simp [isSchema.text]
  have nonempty : (name :: body).flatMap (·.text) ≠ [] := by simp [text]
  have noPoint : '.' ∉ (name :: body).flatMap (·.text) := by
    simpa only [List.mem_flatMap, not_exists, not_and] using free
  have noParen : ∀ t : Token, t.kind = .word → ∀ ts : List Token,
      ((t :: ts).head?.any (·.kind == .openParen)) = false := by
    intro t word ts
    simp [word]
  rw [TableRef.nameOf, TableRef.nameOf, noParen schema (kind_of_isWord isSchema.word),
    noParen name word, written,
    TableRef.withoutDefaultSchema_append (upper_of_isWord isSchema.word) nonempty,
    TableRef.withoutDefaultSchema_of_free noPoint]
  simp

theorem ReadsBefore.free_of_word (reads : t.ReadsBefore r) (word : t.kind = .word) :
    '.' ∉ t.text := by
  obtain ⟨c, tail, text, here⟩ := reads
  rw [word, text, Lexeme.read_eq_word] at here
  rw [text, List.mem_cons, not_or]
  refine ⟨?_, fun mem => absurd (here.2.1 '.' mem) (by decide)⟩
  rintro rfl
  exact absurd here.1 (by decide)

end Token

/-! ### The alias -/

theorem Token.free_of_words (legible : Legible ts) (words : ∀ t ∈ ts, t.kind = .word) :
    ∀ t ∈ ts, '.' ∉ t.text := by
  induction ts with
  | nil => simp
  | cons t ts ih =>
      rw [List.forall_mem_cons] at words ⊢
      exact ⟨legible.1.free_of_word words.1, ih legible.2 words.2⟩

/-- An alias part consists of words, or it ends with a quoted alias. -/
theorem IsAliasPart.words_or_quoted (part : IsAliasPart aliased) (plain : name.IsPlainName) :
    (∀ a ∈ aliased, a.kind = .word) ∨
      ∃ front a, aliased = front ++ [a] ∧ (∀ as ∈ front, as.isWord "AS") ∧ a.kind = .quotedName ∧
        (Alias.splitEnd (name :: aliased)).1 = [name] := by
  have either {a : Token} (isName : Alias.isName a) : a.kind = .word ∨ a.kind = .quotedName := by
    simpa [Alias.isName] using isName
  cases part with
  | none => exact .inl (by simp)
  | @bare a isName =>
      refine (either isName).imp (fun word => by simpa using word) fun quoted => ?_
      have free : Keyword.isReserved name.text = false := by
        have folded := plain.2
        simp only [isFoldable, plain.1, Keyword.isFoldable, beq_self_eq_true, Bool.true_and,
          Bool.or_eq_false_iff] at folded
        exact folded.1.1
      have ends : [name, a].reverse = [a, name] := rfl
      refine ⟨[], a, rfl, by simp, quoted, ?_⟩
      rw [splitEnd_of_reverse ends, plain.not_isWord (by decide)]
      simp [isName, Alias.standsAlone, quoted, Alias.endsExpression, plain.1, free]
  | @as as a word isName =>
      refine (either isName).imp (fun bare => by simp [kind_of_isWord word, bare]) fun quoted => ?_
      have ends : [name, as, a].reverse = [a, as, name] := rfl
      refine ⟨[as], a, rfl, by simpa using word, quoted, ?_⟩
      rw [splitEnd_of_reverse ends]
      simp [isName, word]

/-- No point stands before the alias. -/
theorem IsAliasPart.free (part : IsAliasPart aliased) (plain : name.IsPlainName)
    (legible : Legible (name :: aliased)) :
    ∀ u ∈ (Alias.splitEnd (name :: aliased)).1, '.' ∉ u.text := by
  rcases part.words_or_quoted plain with words | ⟨-, -, -, -, -, front⟩
  · have free := free_of_words legible (List.forall_mem_cons.mpr ⟨plain.1, words⟩)
    exact fun u mem => free u ((Alias.splitEnd_isPrefix _).subset mem)
  · rw [front]
    simpa using legible.1.free_of_word plain.1

/-! ### References with the schema -/

/-- The second list is a reference, `name`, `name alias` or `name AS alias`, with the default schema
written before the name; the first list is the reference without it. -/
inductive SchemaWritten : List Token → List Token → Prop
  | before {schema point name : Token} {aliased : List Token} (gap : Bool)
      (isSchema : IsSchema schema point) (plain : name.IsPlainName) (part : IsAliasPart aliased) :
      SchemaWritten (name :: aliased) (schema :: point :: { name with spaced := gap } :: aliased)

theorem Token.tableOf_respaced (schema point name : Token) (gap : Bool) (ts : List Token) :
    tableOf (schema :: point :: { name with spaced := gap } :: ts) =
      tableOf (schema :: point :: name :: ts) := by
  rw [← tableOf_map_unspaced, ← tableOf_map_unspaced (schema :: point :: name :: ts)]
  rfl

/-- The schema does not change the table that is referred to. -/
theorem SchemaWritten.tableOf (written : SchemaWritten ts us) (legible : Legible ts) :
    tableOf us = tableOf ts := by
  obtain ⟨gap, isSchema, plain, part⟩ := written
  rw [tableOf_respaced]
  exact tableOf_schema isSchema plain.1 (plain.not_isWord (by decide)) legible.1.text_ne_nil
    (part.free plain legible)

/-! ### Lists of references -/

/-- The second list is the first one, or it is with the default schema. -/
def MayHaveSchema (item item' : List Token) : Prop := item' = item ∨ SchemaWritten item item'

/-- The second list has the same items between its commas, some of them with the default schema. -/
inductive ItemsWritten : List Token → List Token → Prop
  | last {item item' : List Token} (same : MayHaveSchema item item')
      (apart : NoneOutside Items.isComma 0 item) : ItemsWritten item item'
  | more {item item' ts us : List Token} {comma : Token} (same : MayHaveSchema item item')
      (apart : NoneOutside Items.isComma 0 item) (closed : depthAt 0 item = 0)
      (isComma : Items.isComma comma) (later : ItemsWritten ts us) :
      ItemsWritten (item ++ comma :: ts) (item' ++ comma :: us)

/-- The schema and the point stand outside of parentheses and are no commas. -/
theorem SchemaWritten.outside (written : SchemaWritten ts us) :
    depthAt 0 us = depthAt 0 ts ∧
      (NoneOutside Items.isComma 0 ts → NoneOutside Items.isComma 0 us) := by
  obtain @⟨schema, point, name, aliased, gap, isSchema, plain, part⟩ := written
  have word := kind_of_isWord isSchema.word
  have first : schema.depthAfter 0 = 0 := by simp [depthAfter, word]
  have second : point.depthAfter 0 = 0 := by simp [depthAfter, isSchema.symbol]
  constructor
  · rw [depthAt, depthAt, List.foldl_cons, List.foldl_cons, first, second]
    rfl
  · intro apart
    have rest := noneOutside_cons.mp apart
    rw [noneOutside_cons, noneOutside_cons, first, second]
    exact ⟨fun _ => by simp [Items.isComma, word],
      fun _ => by simp [Items.isComma, isSchema.symbol], noneOutside_cons.mpr rest⟩

namespace MayHaveSchema

variable {item item' : List Token}

theorem outside (same : MayHaveSchema item item') (apart : NoneOutside Items.isComma 0 item) :
    depthAt 0 item' = depthAt 0 item ∧ NoneOutside Items.isComma 0 item' := by
  rcases same with rfl | written
  · exact ⟨rfl, apart⟩
  · exact written.outside.imp_right fun all => all apart

theorem tables (same : MayHaveSchema item item') (legible : Legible item) :
    ([item'].filter fun piece => !piece.isEmpty).map Token.tableOf =
      ([item].filter fun piece => !piece.isEmpty).map Token.tableOf := by
  rcases same with rfl | written
  · rfl
  · have table := written.tableOf legible
    obtain ⟨gap, isSchema, plain, part⟩ := written
    exact congrArg (fun r => [r]) table

end MayHaveSchema

/-- Gaps do not matter for the tables of a list. -/
theorem Token.tables_of_items (ts : List Token) :
    (itemTokens ts).map tableOf = (splitTopLevel Items.isComma ts).map tableOf := by
  have split (ts : List Token) : splitTopLevel Items.isComma (ts.map unspaced) =
      (splitTopLevel Items.isComma ts).map (List.map unspaced) :=
    cosmetic_unspaced.neutral.splitTopLevelWith _ (fun _ _ => rfl) () ts
  have blind (ps : List (List Token)) :
      (ps.map (List.map unspaced)).map tableOf = ps.map tableOf := by
    simp only [List.map_map, Function.comp_def, tableOf_map_unspaced]
  have start (ps : List (List Token)) : (ps.map atStart).map tableOf = ps.map tableOf := by
    rw [← blind, ← blind ps]
    simp only [List.map_map, Function.comp_def, map_unspaced_atStart]
  rw [itemTokens, start, ← blind, ← split, map_unspaced_atStart, split, blind]

/-- The schema does not change the tables that are listed. -/
theorem ItemsWritten.tables (written : ItemsWritten ts us) (legible : Legible ts) :
    (splitTopLevel Items.isComma us).map Token.tableOf =
      (splitTopLevel Items.isComma ts).map Token.tableOf := by
  induction written with
  | last same apart =>
      rw [splitTopLevel, splitTopLevelWith, piecesFrom_of_noneOutside (same.outside apart).2,
        splitTopLevel, splitTopLevelWith, piecesFrom_of_noneOutside apart]
      exact same.tables legible
  | @more item item' ts us comma same apart closed isComma _ ih =>
      have noParen : comma.isParen = false := by
        rw [Items.isComma, beq_iff_eq] at isComma
        simp [isParen, isComma]
      obtain ⟨depth, apart'⟩ := same.outside apart
      rw [splitTopLevel_append apart' (depth.trans closed) isComma noParen,
        splitTopLevel_append apart closed isComma noParen, List.map_append, List.map_append,
        same.tables legible.append_left, ih legible.append_right.2]

theorem ItemsWritten.ofText (written : ItemsWritten ts us) (legible : Legible ts)
    (legible' : Legible us) :
    (Items.ofText (render us)).filterMap TableRef.ofText? =
      (Items.ofText (render ts)).filterMap TableRef.ofText? := by
  rw [tables_render legible', tables_render legible, tables_of_items, tables_of_items,
    written.tables legible]

end SqlGrader
