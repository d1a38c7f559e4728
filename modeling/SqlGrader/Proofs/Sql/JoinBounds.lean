import SqlGrader.Proofs.Sql.ClauseTokens
import SqlGrader.Proofs.Sql.JoinCut
import SqlGrader.Proofs.Sql.Pieces
import SqlGrader.Proofs.Sql.TopLevel
import SqlGrader.Proofs.Text.Bytes
/-!
# Where the target of a join ends

Among the tokens of a join the target ends at the first `ON` or `USING` outside of parentheses. The
text of the join is searched for these words wherever they stand, also in a subquery and inside of
quotes. So the target that is found in the text is the one among the tokens if no such word seems to
start a condition inside of it, and a shorter one otherwise.
-/

namespace SqlGrader

namespace Join

open Token

variable {t : Token} {ts us keywords target condition : List Token} {a b sql join : Text}

/-- The modifiers of a join and its `JOIN`. -/
def AreKeywords (ts : List Token) : Prop :=
  ∃ modifiers j, ts = modifiers ++ [j] ∧ (∀ m ∈ modifiers, Boundary.isJoinModifier m) ∧
    j.isWord "JOIN"

/-- Whether a condition starts with the token. -/
def isMark (t : Token) : Bool := t.isAnyWord ["ON", "USING"]

/-- The second list starts at the first `ON` or `USING` outside of parentheses, or there is none and
the list is empty. -/
structure EndsTarget (target condition : List Token) : Prop where
  first : NoneOutside isMark 0 target
  mark : ∀ t ∈ condition.head?, isMark t ∧ depthAt 0 target = 0

instance (target condition : List Token) : Decidable (EndsTarget target condition) :=
  decidable_of_iff (NoneOutside isMark 0 target ∧
    ∀ t ∈ condition.head?, isMark t ∧ depthAt 0 target = 0)
    ⟨fun ⟨a, b⟩ => ⟨a, b⟩, fun ⟨a, b⟩ => ⟨a, b⟩⟩

/-- There is a gap before the first token, and a gap or a parenthesis after it. -/
def IsSetOff (condition : List Token) : Prop :=
  ∀ t ts, condition = t :: ts → t.spaced ∧ ts.head?.any fun u => u.spaced || u.kind == .openParen

instance (condition : List Token) : Decidable (IsSetOff condition) :=
  match condition with
  | [] => isTrue fun _ _ none => by cases none
  | t :: ts =>
    decidable_of_iff (t.spaced ∧ ts.head?.any fun u => u.spaced || u.kind == .openParen)
      ⟨fun here _ _ same => by cases same; exact here, fun all => all t ts rfl⟩

/-- A condition seems to start inside of the tokens: at an `ON` or a `USING` in parentheses that is
set off, or inside of a quoted token. -/
def Misleads (target : List Token) : Prop :=
  ∃ before t after, target = before ++ t :: after ∧
    (opensCondition t after.head? ∨ ∃ p q, t.text = p ++ q ∧ startsCondition q)

/-! ### The target among the tokens -/

theorem exists_endsTarget (depth : Nat) (body : List Token) :
    ∃ target condition, body = target ++ condition ∧ NoneOutside isMark depth target ∧
      ∀ t ∈ condition.head?, isMark t ∧ depthAt depth target = 0 := by
  induction body generalizing depth with
  | nil => exact ⟨[], [], rfl, noneOutside_nil, by simp⟩
  | cons t ts ih =>
      by_cases here : depth = 0 ∧ isMark t
      · exact ⟨[], t :: ts, rfl, noneOutside_nil, by simpa [depthAt, and_comm] using here⟩
      · obtain ⟨target, condition, rfl, none, mark⟩ := ih (t.depthAfter depth)
        refine ⟨t :: target, condition, rfl, noneOutside_cons.mpr ⟨fun outside => ?_, none⟩, mark⟩
        exact Bool.eq_false_iff.mpr fun isMark => here ⟨outside, isMark⟩

/-- The last token of the target is no mark that the condition after it sets off. -/
theorem EndsTarget.not_opens (ends : EndsTarget (us ++ [t]) condition) :
    opensCondition t condition.head? = false := by
  refine Bool.eq_false_iff.mpr fun opens => ?_
  simp only [opensCondition, Bool.and_eq_true] at opens
  obtain ⟨⟨-, isMark⟩, next⟩ := opens
  obtain ⟨c, head⟩ : ∃ c, condition.head? = some c := by
    cases here : condition.head? with
    | none => simp [here] at next
    | some c => exact ⟨c, rfl⟩
  have outside := (ends.mark c head).2
  have noParen : t.isParen = false :=
    Bool.eq_false_iff.mpr fun paren => kind_of_isParen paren (kind_of_isAnyWord isMark)
  rw [depthAt_append] at outside
  have before : depthAt 0 us = 0 := by
    rwa [← depthAfter_of_not_isParen (depthAt 0 us) noParen]
  have none := (noneOutside_cons.mp (noneOutside_append.mp ends.first).2).1 before
  rw [Join.isMark, isMark] at none
  cases none

/-! ### The target in the text -/

theorem uncut_iff :
    Uncut a b ↔ ∀ p c q, a = p ++ c :: q → startsCondition (c :: (q ++ b)) = false := by
  induction a with
  | nil => simp [Uncut]
  | cons d a ih =>
      rw [Uncut, ih]
      constructor
      · rintro ⟨first, later⟩ (_ | ⟨e, p⟩) c q whole
        · obtain ⟨rfl, rfl⟩ := List.cons.inj whole
          exact first
        · exact later p c q (List.cons.inj whole).2
      · exact fun all => ⟨all [] d a rfl, fun p c q whole => all (d :: p) c q (by rw [whole]; rfl)⟩

/-- Whether a condition starts in a target is told token by token. -/
theorem uncut_trail (legible : Legible (target ++ condition)) :
    Uncut (trail target) (trail condition) ↔ ∀ before t after, target = before ++ t :: after →
      opensCondition t (after ++ condition).head? = false ∧ Uncut t.text [] := by
  induction target with
  | nil => simp [Uncut]
  | cons u us ih =>
      have whole : Legible (u :: (us ++ condition)) := legible
      rw [trail_cons, uncut_append, ← trail_append, uncut_cons whole, ih whole.2]
      constructor
      · rintro ⟨first, later⟩ (_ | ⟨v, before⟩) t after whole
        · obtain ⟨rfl, rfl⟩ := List.cons.inj whole
          exact first
        · exact later before t after (List.cons.inj whole).2
      · exact fun all => ⟨all [] u us rfl, fun before t after whole =>
          all (u :: before) t after (by rw [whole]; rfl)⟩

theorem uncut_iff_not_misleads (legible : Legible (target ++ condition))
    (ends : EndsTarget target condition) :
    Uncut (trail target) (trail condition) ↔ ¬ Misleads target := by
  rw [uncut_trail legible]
  constructor
  · rintro none ⟨before, t, after, rfl, opens | ⟨p, q, text, starts⟩⟩
    · have quiet := (none before t after rfl).1
      cases after with
      | nil => simp [opensCondition] at opens
      | cons u after =>
          have heads : (u :: after ++ condition).head? = (u :: after).head? := rfl
          rw [heads, opens] at quiet
          cases quiet
    · cases q with
      | nil => cases starts
      | cons c q =>
          have quiet := uncut_iff.mp (none before t after rfl).2 p c q text
          rw [List.append_nil, starts] at quiet
          cases quiet
  · rintro quiet before t after rfl
    refine ⟨?_, uncut_iff.mpr fun p c q text => Bool.eq_false_iff.mpr fun starts => ?_⟩
    · cases after with
      | nil => exact ends.not_opens
      | cons u after =>
          exact Bool.eq_false_iff.mpr fun opens => quiet ⟨before, t, u :: after, rfl, .inl opens⟩
    · rw [List.append_nil] at starts
      exact quiet ⟨before, t, after, rfl, .inr ⟨p, c :: q, text, starts⟩⟩

/-- Set off, a condition starts in the text where it starts among the tokens. -/
theorem startsCondition_of_isSetOff (legible : Legible condition)
    (ends : EndsTarget target condition) (setOff : IsSetOff condition) :
    trail condition = [] ∨ startsCondition (trail condition) := by
  cases condition with
  | nil => exact .inl rfl
  | cons t ts =>
      obtain ⟨spaced, next⟩ := setOff t ts rfl
      have mark : t.isAnyWord ["ON", "USING"] := (ends.mark t rfl).1
      exact .inr (startsCondition_of_opens legible (by simp [opensCondition, spaced, mark, next]))

/-- The text is cut where the tokens are, unless the target misleads: then it is cut before. -/
theorem splitTarget_cases (legible : Legible (target ++ condition))
    (ends : EndsTarget target condition) (setOff : IsSetOff condition) :
    (¬ Misleads target ∧
        splitTarget (trail (target ++ condition)) = (trail target, trail condition)) ∨
      (Misleads target ∧ ∃ x y, trail target = x ++ y ∧ y ≠ [] ∧
        startsCondition (y ++ trail condition) ∧
          (splitTarget (trail (target ++ condition))).1 = x) := by
  have told := uncut_iff_not_misleads legible ends
  rw [trail_append]
  by_cases misleads : Misleads target
  · refine .inr ⟨misleads, ?_⟩
    have cut : ¬ Uncut (trail target) (trail condition) := fun uncut => told.mp uncut misleads
    have whole := splitTarget_append (trail target ++ trail condition)
    have kept := uncut_splitTarget (trail target ++ trail condition)
    have starts := startsCondition_splitTarget (trail target ++ trail condition)
    generalize splitTarget (trail target ++ trail condition) = parts at whole kept starts
    obtain ⟨x, rest⟩ := parts
    rcases List.append_eq_append_iff.mp whole with ⟨y, parts, later⟩ | ⟨y, rfl, later⟩
    · have later : rest = y ++ trail condition := later
      have nonempty : y ≠ [] := by
        rintro rfl
        rw [List.append_nil] at parts
        rw [parts, show trail condition = rest from later.symm] at cut
        exact cut kept
      refine ⟨x, y, parts, nonempty, ?_, rfl⟩
      rw [← later]
      refine starts.resolve_left fun none => nonempty ?_
      rw [show rest = [] from none] at later
      exact (List.append_eq_nil_iff.mp later.symm).1
    · rw [show trail condition = y ++ rest from later] at cut
      exact absurd (uncut_append.mp kept).1 cut
  · exact .inl ⟨misleads, splitTarget_of_uncut (told.mpr misleads)
      (startsCondition_of_isSetOff legible.append_right ends setOff)⟩

/-- What is cut off of a target is not white space only. -/
theorem exists_of_cut {x y : Text} (legible : Legible target) (parts : trail target = x ++ y)
    (nonempty : y ≠ []) (starts : startsCondition (y ++ b)) : ∃ c ∈ y, Text.isBlank c = false := by
  obtain ⟨w, known, word, d, rest, whole, letters, -⟩ := startsCondition_iff.mp starts
  obtain ⟨c, y', rfl⟩ := List.exists_cons_of_ne_nil nonempty
  obtain ⟨rfl, after⟩ := List.cons.inj whole
  cases y' with
  | nil =>
      -- No token ends with a space.
      have nonempty' : target ≠ [] := by
        rintro rfl
        exact absurd parts (by simp)
      obtain ⟨us, t, rfl⟩ := (List.eq_nil_or_concat' target).resolve_left nonempty'
      have reads := legible.append_right.1
      have last := getLast?_trail_append us reads.text_ne_nil
      rw [parts, List.getLast?_concat] at last
      exact absurd last.symm (last_ne_space reads)
  | cons e y' =>
      have nonempty' : word ≠ [] := by
        rintro rfl
        have none : ∀ w ∈ ["ON", "USING"], w.toList ≠ [] := by decide
        exact none w known letters.symm
      obtain ⟨f, word', rfl⟩ := List.exists_cons_of_ne_nil nonempty'
      obtain ⟨rfl, -⟩ := List.cons.inj after
      have capitals : ∀ w ∈ ["ON", "USING"], ∀ c ∈ w.toList, c.isUpper := by simp
      have letter : e.toUpper.isUpper :=
        capitals w known _ (letters ▸ List.mem_map_of_mem List.mem_cons_self)
      exact ⟨e, by simp, Text.isBlank_of_isAlpha (Text.isAlpha_of_toUpper letter)⟩

/-! ### Joins -/

/-- What is found in the text of a join with these tokens: the keywords, and the target unless it
misleads. -/
structure Finds (parts : Join) (keywords target condition : List Token) : Prop where
  keywords_end : parts.bounds.1 = (render keywords).utf8Length
  target_end (setOff : IsSetOff condition) (straight : ¬ Misleads target) :
    parts.bounds.2 = (render (keywords ++ target)).utf8Length ∧
      parts.targetText = Text.trim (render target)
  misled (setOff : IsSetOff condition) (misleads : Misleads target) :
    parts.bounds.2 < (render (keywords ++ target)).utf8Length ∧
      parts.targetText ≠ Text.trim (render target)

theorem finds_ofText? (isKeywords : AreKeywords keywords)
    (legible : Legible (keywords ++ (target ++ condition))) (ends : EndsTarget target condition) :
    ∃ parts, ofText? (render (keywords ++ (target ++ condition))) = some parts ∧
      Finds parts keywords target condition := by
  obtain ⟨modifiers, j, rfl, all, join⟩ := isKeywords
  have found := ofText?_render all join (target ++ condition)
  rw [List.append_cons] at found
  have width : (render (modifiers ++ [j] ++ target)).utf8Length =
      (render (modifiers ++ [j])).utf8Length + (trail target).utf8Length := by
    rw [render_append (by simp), Text.utf8Length_append]
  have cases := splitTarget_cases legible.append_right ends
  refine ⟨_, found, rfl, fun setOff straight => ?_, fun setOff misleads => ?_⟩
  · obtain ⟨-, cut⟩ | ⟨misleads, -⟩ := cases setOff
    · rw [bounds, targetText, cut, width, trim_trail_eq]
      exact ⟨rfl, rfl⟩
    · exact absurd misleads straight
  · obtain ⟨straight, -⟩ | ⟨-, x, y, parts, nonempty, starts, cut⟩ := cases setOff
    · exact absurd misleads straight
    · rw [bounds, targetText, cut, width, parts, Text.utf8Length_append, ← trim_trail_eq]
      refine ⟨?_, fun same => ?_⟩
      · exact Nat.add_lt_add_left (Nat.lt_add_of_pos_right (Text.utf8Length_pos nonempty)) _
      · obtain ⟨c, mem, visible⟩ :=
          exists_of_cut legible.append_right.append_left parts nonempty starts
        have kept := congrArg (List.filter (!Text.isBlank ·)) same
        rw [Text.filter_trim, Text.filter_trim, parts, List.filter_append,
          List.self_eq_append_right] at kept
        exact absurd (List.filter_eq_nil_iff.mp kept c mem) (by simp [visible])

/-- Of each join of a statement the text gives the keywords. Where the condition is set off it gives
the target too, up to the first `ON` or `USING` outside of parentheses, unless such a word stands in
the parentheses of the target or inside of its quotes: then it gives less. -/
theorem bounds_of_mem_joins (read : tokenize sql = .ok ts)
    (mem : join ∈ (ClauseSet.ofTokens ts).joins) :
    ∃ keywords target condition, keywords ++ (target ++ condition) <:+: ts ∧
      join = render (keywords ++ (target ++ condition)) ∧ AreKeywords keywords ∧
      EndsTarget target condition ∧
        ∃ parts, ofText? join = some parts ∧ Finds parts keywords target condition := by
  have legible := legible_of_tokenize read
  rw [ClauseSet.joins_ofTokens legible] at mem
  obtain ⟨tokens, here, rfl⟩ := List.mem_map.mp mem
  obtain ⟨inside, modifiers, j, body, rfl, all, word⟩ := Section.of_mem_joinTokens here
  obtain ⟨target, condition, rfl, first, mark⟩ := exists_endsTarget 0 body
  rw [List.append_cons] at inside ⊢
  have keywords : AreKeywords (modifiers ++ [j]) := ⟨modifiers, j, rfl, all, word⟩
  have ends : EndsTarget target condition := ⟨first, mark⟩
  exact ⟨_, target, condition, inside, rfl, keywords, ends,
    finds_ofText? keywords (legible.of_isInfix inside) ends⟩

/-- A statement that joins a subquery. -/
def subqueryJoin : Text := "SELECT t.a FROM t LEFT JOIN (SELECT b FROM u) s ON(s.b = t.a)".toList

theorem bounds_of_mem_joins_subquery :
    tokenize subqueryJoin = .ok (tokensOf subqueryJoin) ∧
      "LEFT JOIN (SELECT b FROM u) s ON(s.b = t.a)".toList ∈
        (ClauseSet.ofTokens (tokensOf subqueryJoin)).joins ∧
      ∃ keywords target condition,
        keywords ++ (target ++ condition) <:+: tokensOf subqueryJoin ∧
        "LEFT JOIN (SELECT b FROM u) s ON(s.b = t.a)".toList =
          render (keywords ++ (target ++ condition)) ∧
        AreKeywords keywords ∧ EndsTarget target condition ∧
          ∃ parts, ofText? "LEFT JOIN (SELECT b FROM u) s ON(s.b = t.a)".toList = some parts ∧
            Finds parts keywords target condition := by
  have read : tokenize subqueryJoin = .ok (tokensOf subqueryJoin) := by decide +kernel
  have mem : "LEFT JOIN (SELECT b FROM u) s ON(s.b = t.a)".toList ∈
      (ClauseSet.ofTokens (tokensOf subqueryJoin)).joins := by decide +kernel
  exact ⟨read, mem, bounds_of_mem_joins read mem⟩

/-- A statement that joins a subquery which has a join of its own. -/
def nestedJoin : Text :=
  "SELECT t.a FROM t JOIN (SELECT b FROM u JOIN v ON u.i = v.i) s ON s.b = t.a".toList

/-- The target of this join is cut in the subquery. -/
theorem bounds_nestedJoin :
    (ClauseSet.ofStatement nestedJoin).joins =
        ["JOIN (SELECT b FROM u JOIN v ON u.i = v.i) s ON s.b = t.a".toList] ∧
      (ofText? "JOIN (SELECT b FROM u JOIN v ON u.i = v.i) s ON s.b = t.a".toList).map
          (fun parts => (parts.bounds, parts.targetText)) =
        some ((4, 28), "(SELECT b FROM u JOIN v".toList) := by
  decide +kernel

end Join

end SqlGrader
