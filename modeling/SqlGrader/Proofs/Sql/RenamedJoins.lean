import SqlGrader.Proofs.Sql.JoinCut
import SqlGrader.Proofs.Sql.RenamedFragments
/-!
# Joins of a statement and of the renamed statement

No name is a mark of a condition, and renaming keeps gaps and quotes. So a join
whose table can be read and the renamed join are cut at the same place, and their
tables and conditions are the renamed ones.
-/

namespace SqlGrader.Join

open Token Scope

variable {x y join : Text} {t j : Token} {ts modifiers body before after : List Token}
  {s s' : Scope}

/-! ### The cut -/

theorem opensCondition_renamed (first : IsName x) (second : IsName y) (t : Token)
    (next : Option Token) :
    opensCondition (t.renamed x y) (next.map (renamed x y)) = opensCondition t next := by
  have known : ∀ w ∈ ["ON", "USING"], w ∈ Keyword.structural := by decide
  have word := (neutral_renamed first second).isAnyWord t known
  cases next <;> simp [opensCondition, word]

/-- Renaming starts no condition. -/
theorem uncut_renamed (renames : Renames x y (before ++ after))
    (uncut : Uncut (trail before) (trail after)) :
    Uncut (trail (before.map (renamed x y))) (trail (after.map (renamed x y))) := by
  induction before with
  | nil => trivial
  | cons t before ih =>
      have clean : Clean (t :: (before ++ after)) := renames.clean
      have clean' := renames.clean_map
      rw [trail_cons, uncut_append, ← trail_append, uncut_cons clean.legible] at uncut
      obtain ⟨⟨opens, inside⟩, rest⟩ := uncut
      rw [List.cons_append, List.map_cons] at clean'
      rw [List.map_cons, trail_cons, uncut_append, ← trail_append, ← List.map_append,
        uncut_cons clean'.legible, List.head?_map,
        opensCondition_renamed renames.first renames.second]
      refine ⟨⟨opens, ?_⟩, ih (renames.of_isInfix (List.suffix_cons t _).isInfix) rest⟩
      by_cases named : t.kind = .word ∧ t.Names x
      · -- A word holds no space.
        have plain := clean'.plain (t.renamed x y) (by simp)
        have noQuote : ¬ ((t.renamed x y).kind = .stringLiteral ∨
            (t.renamed x y).kind = .quotedName) := by simp [named.1]
        refine uncut_of_ne_space fun c mem => ?_
        rintro rfl
        exact plain.resolve_left noQuote ' ' mem rfl
      · rwa [renamed, if_neg named]

/-- The renamed tokens are cut where the tokens are. -/
theorem splitTarget_renamed (renames : Renames x y (before ++ after))
    (cut : splitTarget (trail (before ++ after)) = (trail before, trail after)) :
    splitTarget (trail ((before ++ after).map (renamed x y))) =
      (trail (before.map (renamed x y)), trail (after.map (renamed x y))) := by
  have uncut := uncut_splitTarget (trail (before ++ after))
  have ends := startsCondition_splitTarget (trail (before ++ after))
  rw [cut] at uncut ends
  rw [List.map_append, trail_append]
  refine splitTarget_of_uncut (uncut_renamed renames uncut) ?_
  cases after with
  | nil => exact .inl rfl
  | cons t after =>
      have rest := renames.of_isInfix (List.suffix_append before (t :: after)).isInfix
      have clean := rest.clean
      have clean' := rest.clean_map
      have nonempty : trail (t :: after) ≠ [] := by
        simp [trail_cons, spacedText_eq, clean.legible.1.text_ne_nil]
      have opens := (startsCondition_trail clean.legible).mp (ends.resolve_left nonempty)
      rw [List.map_cons] at clean' ⊢
      refine .inr ((startsCondition_trail clean'.legible).mpr ?_)
      rw [List.head?_map, opensCondition_renamed renames.first renames.second]
      exact opens

/-! ### Renamed joins -/

/-- Joins with the same keywords, of which the second one has the table and the condition of the
first one, renamed. -/
structure Renamed (x y : Text) (j k : Join) : Prop where
  keywords : k.keywords = j.keywords
  target : RenamedText x y j.targetText k.targetText
  condition : RenamedText x y (Text.trim j.condition) (Text.trim k.condition)

/-- A join whose table can be read is renamed part by part. -/
theorem exists_renamed {a : Join} (renames : Renames x y (modifiers ++ j :: body))
    (all : ∀ m ∈ modifiers, Boundary.isJoinModifier m) (isJoin : j.isWord "JOIN")
    (left : ofText? (render (modifiers ++ j :: body)) = some a)
    (readable : ∃ us, tokenize a.targetText = .ok us) :
    ∃ b, ofText? (render ((modifiers ++ j :: body).map (renamed x y))) = some b ∧
      Renamed x y a b := by
  have inside : body <:+: modifiers ++ j :: body :=
    (List.suffix_append_of_suffix (List.suffix_cons j body)).isInfix
  have names := renames.of_isInfix inside
  obtain rfl := Option.some.inj (left.symm.trans (ofText?_render all isJoin body))
  obtain ⟨us, read⟩ := readable
  obtain ⟨before, after, rfl, cut⟩ := splitTarget_trail names.clean.legible names.clean.plain read
  -- The keywords are no names.
  have same : ∀ m ∈ modifiers ++ [j], ¬ m.Names x := by
    intro m mem
    exact not_names_of_isAnyWord renames.first (by decide) (isAnyWord_keywords all isJoin m mem)
  have keywords : (modifiers ++ [j]).map (renamed x y) = modifiers ++ [j] :=
    map_renamed_of_absent same
  have whole : (modifiers ++ j :: (before ++ after)).map (renamed x y) =
      modifiers ++ j :: (before ++ after).map (renamed x y) := by
    rw [List.append_cons, List.map_append, keywords, ← List.append_cons]
  have right := ofText?_render all isJoin ((before ++ after).map (renamed x y))
  rw [splitTarget_renamed names cut, ← whole] at right
  have front := names.of_isInfix (List.prefix_append before after).isInfix
  have back := names.of_isInfix (List.suffix_append before after).isInfix
  refine ⟨_, right, rfl, ?_, ?_⟩
  · simp only [targetText, cut, trim_trail front.clean.legible front.clean.plain,
      trim_trail front.clean_map.legible front.clean_map.plain]
    exact .of_renames front
  · simp only [cut, trim_trail back.clean.legible back.clean.plain,
      trim_trail back.clean_map.legible back.clean_map.plain]
    exact .of_renames back

/-! ### Aliases in joins -/

/-- Whether in the table of a join the name is an unquoted alias and nothing else, and in the
condition a qualifier. -/
structure KnowsAlias (x : Text) (j : Join) : Prop where
  target : OnlyAlias x (tokensOf j.targetText)
  condition : Qualifies x (tokensOf (Text.trim j.condition))

instance (x : Text) (j : Join) : Decidable (KnowsAlias x j) :=
  decidable_of_iff
    (OnlyAlias x (tokensOf j.targetText) ∧ Qualifies x (tokensOf (Text.trim j.condition)))
    ⟨fun ⟨target, condition⟩ => ⟨target, condition⟩, fun ⟨target, condition⟩ => ⟨target, condition⟩⟩

instance decidableReads (t : Text) : Decidable (∃ ts, tokenize t = .ok ts) :=
  match tokenize t with
  | .ok ts => isTrue ⟨ts, rfl⟩
  | .error _ => isFalse fun ⟨_, read⟩ => by cases read

/-- Whether a join is cut between two of its tokens, or else the names do not occur in it. -/
def CutBetween (x y join : Text) (j : Join) : Prop :=
  (∃ ts, tokenize j.targetText = .ok ts) ∨
    ((∀ t ∈ tokensOf join, ¬ t.Names x) ∧
      ∀ t ∈ tokensOf (Text.trim j.condition), ¬ t.Names x ∧ ¬ t.Names y)

instance (x y join : Text) (j : Join) : Decidable (CutBetween x y join j) :=
  inferInstanceAs (Decidable (_ ∨ _))

/-- What becomes of a join when an alias is renamed. -/
inductive Follows (x y : Text) : Join → Join → Prop
  | renamed {j k : Join} (pair : Renamed x y j k) (target : OnlyAlias x (tokensOf j.targetText))
      (condition : Qualifies x (tokensOf (Text.trim j.condition))) : Follows x y j k
  | same {j : Join} (unread : ∀ ts, tokenize j.targetText ≠ .ok ts)
      (condition : ∀ t ∈ tokensOf (Text.trim j.condition), ¬ t.Names x ∧ ¬ t.Names y) :
      Follows x y j j

theorem exists_follows (renames : Renames x y ts)
    (shape : ∃ modifiers j body, ts = modifiers ++ j :: body ∧
      (∀ m ∈ modifiers, Boundary.isJoinModifier m) ∧ j.isWord "JOIN")
    (knows : ∀ j ∈ ofText? (render ts), KnowsAlias x j)
    (cut : ∀ j ∈ ofText? (render ts), CutBetween x y (render ts) j) :
    ∃ j k, ofText? (render ts) = some j ∧ ofText? (render (ts.map (renamed x y))) = some k ∧
      Follows x y j k := by
  obtain ⟨modifiers, join, body, rfl, all, isJoin⟩ := shape
  obtain ⟨a, left⟩ : ∃ a, ofText? (render (modifiers ++ join :: body)) = some a :=
    ⟨_, ofText?_render all isJoin body⟩
  by_cases readable : ∃ us, tokenize a.targetText = .ok us
  · obtain ⟨k, right, pair⟩ := exists_renamed renames all isJoin left readable
    exact ⟨a, k, left, right, .renamed pair (knows a left).target (knows a left).condition⟩
  · obtain ⟨absent, condition⟩ := (cut a left).resolve_left readable
    rw [(RenamedText.of_renames renames).eq_of_absent absent]
    exact ⟨a, a, left, left, .same (not_exists.mp readable) condition⟩

theorem ofText?_of_unread {t : Text} (unread : ∀ ts, tokenize t ≠ .ok ts) :
    TableRef.ofText? t = none := by
  unfold TableRef.ofText?
  split
  next read => exact absurd read (unread _)
  next read => exact absurd read (unread _)
  next => rfl

namespace Follows

variable {j k : Join}

theorem keywords (follows : Follows x y j k) : k.keywords = j.keywords := by
  cases follows with
  | renamed pair _ _ => exact pair.keywords
  | same _ _ => rfl

/-- The table of the join keeps its name. -/
theorem table? (follows : Follows x y j k) :
    TableRef.ofText? k.targetText = (TableRef.ofText? j.targetText).map (TableRef.renamed x y) := by
  cases follows with
  | renamed pair target _ => exact pair.target.table? target
  | same unread _ =>
      rw [ofText?_of_unread unread]
      rfl

theorem table?_fresh (follows : Follows x y j k) {r : TableRef}
    (found : TableRef.ofText? j.targetText = some r) :
    ∀ n ∈ r.aliasName, Text.lowercase n ≠ Text.lowercase y := by
  cases follows with
  | renamed pair _ _ => exact pair.target.table?_fresh found
  | same unread _ =>
      rw [ofText?_of_unread unread] at found
      cases found

/-- The canonical text of the join is the same. -/
theorem canonical (follows : Follows x y j k) (first : IsName x) (second : IsName y)
    (tables : RenamesTable x y s s') :
    k.canonical s' = j.canonical s := by
  have kind : k.kind = j.kind := kind_congr (congrArg Text.upper follows.keywords)
  have condition : s'.canonical false (Text.trim k.condition) =
      s.canonical false (Text.trim j.condition) := by
    cases follows with
    | renamed pair _ condition =>
        exact pair.condition.canonical
          (tables.keepsStretches pair.condition.renames condition false)
    | same _ condition =>
        exact tables.aligned.canonical_of_absent first second fun t mem => condition t mem
  rw [Join.canonical, Join.canonical, kind, condition, follows.table?]
  cases TableRef.ofText? j.targetText <;> rfl

end Follows

end SqlGrader.Join
