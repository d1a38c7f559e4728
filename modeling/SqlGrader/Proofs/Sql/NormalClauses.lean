import SqlGrader.Proofs.Sql.ClauseTokens
/-!
# Clauses of normal forms

The clauses of a normal form are the normal forms of the clauses, if no parenthesis is left open.
The semicolons that a normal form drops are in no clause then, and no clause ends with one: a
semicolon outside of parentheses ends the query, and what stands inside of them has a parenthesis
after it.
-/

namespace SqlGrader.Section

open Token

variable {ts : List Token} {s : Section}

/-- Whether a list ends with a semicolon. -/
def EndsInTerminator (ts : List Token) : Prop := ∃ t ∈ ts.getLast?, NormalForm.isTerminator t

theorem not_endsInTerminator_cons {t : Token} (later : ¬ EndsInTerminator ts)
    (alone : ts = [] → NormalForm.isTerminator t = false) : ¬ EndsInTerminator (t :: ts) := by
  rintro ⟨u, last, ends⟩
  cases ts with
  | nil =>
      obtain rfl := Option.some.inj last
      simp [alone rfl] at ends
  | cons v vs => exact later ⟨u, by simpa using last, ends⟩

/-- Inside of parentheses the scan does not stop before the end of the tokens. -/
theorem eq_nil_of_splitFrom {current : Option Slot} {depth : Nat} (inside : depth ≠ 0)
    (nothing : (splitFrom current depth ts).1 = []) : ts = [] := by
  cases ts with
  | nil => rfl
  | cons t ts =>
      rw [splitFrom, if_pos (by simp [inside])] at nothing
      cases nothing

/-- What belongs to a section does not end with a semicolon, if all parentheses are closed at the
end of the tokens. -/
theorem splitFrom_ends_apart (current : Option Slot) (depth : Nat) (ts : List Token)
    (closed : depthAt depth ts = 0) :
    (current.isSome → ¬ EndsInTerminator (splitFrom current depth ts).1) ∧
      ∀ s ∈ (splitFrom current depth ts).2, ¬ EndsInTerminator s.body := by
  have empty : ¬ EndsInTerminator [] := by simp [EndsInTerminator]
  fun_induction splitFrom current depth ts with
  | case1 => exact ⟨fun _ => empty, by simp⟩
  | case2 current depth t ts inside body later rest ih =>
      obtain ⟨first, sections⟩ := ih closed
      rw [rest] at first sections
      refine ⟨fun begun => not_endsInTerminator_cons (first begun) fun nothing => ?_, sections⟩
      rw [Bool.eq_false_iff]
      intro ends
      have symbol := kind_of_isTerminator ends
      have kept : t.depthAfter depth = depth := by simp [depthAfter, symbol]
      have open_ : depth ≠ 0 := by simpa [isParen, symbol] using inside
      -- The semicolon is the last token, and a parenthesis is open there.
      have stopped : (splitFrom current depth ts).1 = [] := by
        rw [← kept, rest]
        exact nothing
      rw [eq_nil_of_splitFrom open_ stopped] at closed
      exact open_ (kept.symm.trans closed)
  | case3 => exact ⟨fun _ => empty, by simp⟩
  | case4 current depth t ts outside goesOn b opens body later rest ih =>
      have words := (Boundary.at?_take opens).1.words
      rw [← Boundary.at?_take_append_drop opens, depthAt_append, depthAt_of_words _ words] at closed
      obtain ⟨first, sections⟩ := ih closed
      rw [rest] at first sections
      exact ⟨fun _ => empty, List.forall_mem_cons.mpr ⟨first rfl, sections⟩⟩
  | case5 current depth t ts outside goesOn opens body later rest ih =>
      have noParen : t.isParen = false := by simp_all
      rw [depthAt, List.foldl_cons, depthAfter_of_not_isParen depth noParen, ← depthAt] at closed
      obtain ⟨first, sections⟩ := ih closed
      rw [rest] at first sections
      refine ⟨fun begun => not_endsInTerminator_cons (first begun) fun _ => ?_, sections⟩
      simp only [begun, Bool.true_and, endsQuery, Bool.or_eq_true, not_or] at goesOn
      exact Bool.eq_false_iff.mpr goesOn.1

theorem dropTerminators_eq_self (apart : ¬ EndsInTerminator ts) :
    NormalForm.dropTerminators ts = ts := by
  rw [NormalForm.dropTerminators_eq, List.rdropWhile_eq_self_iff]
  intro nonempty ends
  exact apart ⟨ts.getLast nonempty, List.getLast?_eq_some_getLast nonempty, ends⟩

/-- No clause ends with a semicolon, if all parentheses are closed at the end of the tokens. -/
theorem dropTerminators_content (closed : depthAt 0 ts = 0) (mem : s ∈ ofTokens ts) :
    NormalForm.dropTerminators s.content = s.content := by
  refine dropTerminators_eq_self ?_
  have body := (splitFrom_ends_apart none 0 ts closed).2 s mem
  unfold content
  split
  · rintro ⟨t, last, ends⟩
    rw [List.getLast?_append] at last
    cases tail : s.body.getLast? with
    | some u =>
        rw [tail] at last
        exact body ⟨t, tail.trans last, ends⟩
    | none =>
        rw [tail, Option.none_or] at last
        obtain ⟨outer, words⟩ := splitFrom_opened none 0 ts s mem
        have word := words.words t (List.mem_of_getLast? last)
        rw [kind_of_isTerminator ends] at word
        cases word
  · exact body

/-- The normal form of the text of a section. -/
theorem normalize_content (legible : Legible ts) (closed : depthAt 0 ts = 0)
    (mem : s ∈ ofTokens ts) :
    normalize (render s.content) = render (s.content.map folded) := by
  rw [NormalForm.normalize_render (legible.of_isInfix (content_within mem)),
    NormalForm.ofTokens_eq_render, NormalForm.foldedTokens, dropTerminators_content closed mem]

/-- The parenthesis that is open after the tokens is open without the semicolons at their end. -/
theorem depthAt_dropTerminators (depth : Nat) (ts : List Token) :
    depthAt depth (NormalForm.dropTerminators ts) = depthAt depth ts := by
  have whole : NormalForm.dropTerminators ts ++ ts.rtakeWhile NormalForm.isTerminator = ts :=
    List.rdropWhile_append_rtakeWhile
  have noParens : ∀ t ∈ ts.rtakeWhile NormalForm.isTerminator, t.isParen = false := by
    intro t mem
    simp [isParen, kind_of_isTerminator (List.mem_rtakeWhile_imp mem)]
  conv_rhs => rw [← whole, depthAt_append, depthAt_of_not_isParen _ noParens]

/-- The sections of a normal form are those of the statement, keywords in capitals. -/
theorem ofTokens_foldedTokens (closed : depthAt 0 ts = 0) :
    ofTokens (NormalForm.foldedTokens ts) = (ofTokens ts).map (map folded) := by
  have same := ofTokens_dropTerminators ts ((depthAt_dropTerminators 0 ts).trans closed)
  rw [← same, NormalForm.foldedTokens, ofTokens, splitFrom_map cosmetic_folded.neutral, ofTokens]

/-- The tokens of a clause are those of a section, if there are any. -/
theorem clauseTokens_cases (kind : ClauseKind) (ss : List Section) :
    clauseTokens kind ss = [] ∨ ∃ s ∈ ss, clauseTokens kind ss = s.content := by
  unfold clauseTokens
  split
  next s found => exact .inr ⟨s, List.mem_of_find?_eq_some found, rfl⟩
  next => exact .inl rfl

end SqlGrader.Section

namespace SqlGrader.ClauseSet

open Token Section

variable {ts : List Token} {sql : Text}

theorem ofStatement_of_reading (read : tokenize sql = .ok ts)
    (structural : (ofStatement sql).reading = .tokens) :
    (ofTokens ts).hasCore ∧ ofStatement sql = ofTokens ts := by
  rw [ofStatement, read] at structural ⊢
  simp only at structural ⊢
  split at structural
  next core => exact ⟨core, if_pos core⟩
  next => cases structural

/-- The clauses that are found in the tokens of the normal form. -/
def ofNormalForm (ts : List Token) : ClauseSet := ofTokens (NormalForm.foldedTokens ts)

/-- Each clause of the normal form is the normal form of the clause. -/
theorem text_ofNormalForm (legible : Legible ts) (closed : depthAt 0 ts = 0) {kind : ClauseKind}
    (noJoins : kind ≠ .joins) :
    (ofNormalForm ts).text kind = normalize ((ofTokens ts).text kind) := by
  rw [ofNormalForm, text_ofTokens (NormalForm.legible_foldedTokens legible) kind noJoins,
    ofTokens_foldedTokens closed, clauseTokens_map, text_ofTokens legible kind noJoins]
  rcases clauseTokens_cases kind (Section.ofTokens ts) with none | ⟨s, mem, here⟩
  · rw [none]
    have nothing : Legible [] := trivial
    exact (NormalForm.normalize_render nothing).symm
  · rw [here, normalize_content legible closed mem]

/-- Each join of the normal form is the normal form of the join. -/
theorem joins_ofNormalForm (legible : Legible ts) (closed : depthAt 0 ts = 0) :
    (ofNormalForm ts).joins = (ofTokens ts).joins.map normalize := by
  rw [ofNormalForm, joins_ofTokens (NormalForm.legible_foldedTokens legible),
    ofTokens_foldedTokens closed, joinTokens_map, joins_ofTokens legible, List.map_map,
    List.map_map]
  refine List.map_congr_left fun join mem => ?_
  obtain ⟨s, counts, rfl⟩ := List.mem_map.mp mem
  exact (normalize_content legible closed (List.mem_filter.mp counts).1).symm

/-- The normal form has something to compare if the statement has. -/
theorem hasCore_ofNormalForm (legible : Legible ts) (closed : depthAt 0 ts = 0) :
    (ofNormalForm ts).hasCore = (ofTokens ts).hasCore := by
  have empty (kind : ClauseKind) (noJoins : kind ≠ .joins) :
      ((ofNormalForm ts).text kind).isEmpty = ((ofTokens ts).text kind).isEmpty := by
    have tokens := legible.of_isInfix (clauseTokens_within kind ts)
    rw [ofNormalForm, text_ofTokens (NormalForm.legible_foldedTokens legible) kind noJoins,
      ofTokens_foldedTokens closed, clauseTokens_map, text_ofTokens legible kind noJoins,
      isEmpty_render tokens, isEmpty_render tokens.map_folded, List.isEmpty_map]
  have projection := empty .projection (by simp)
  have source := empty .source (by simp)
  have filter := empty .filter (by simp)
  simp only [text] at projection source filter
  rw [hasCore, hasCore, projection, source, filter]

/-- The clauses of a normal form are the normal forms of the clauses, join by join, if the clauses
are found in the tokens and no parenthesis is open at their end. -/
theorem ofStatement_normalize (sql : Text) (ts : List Token) (read : tokenize sql = .ok ts)
    (structural : (ofStatement sql).reading = .tokens) (closed : depthAt 0 ts = 0) :
    (ofStatement (normalize sql)).reading = .tokens ∧
      (∀ kind, kind ≠ .joins →
        (ofStatement (normalize sql)).text kind = normalize ((ofStatement sql).text kind)) ∧
      (ofStatement (normalize sql)).joins = (ofStatement sql).joins.map normalize := by
  have legible := legible_of_tokenize read
  obtain ⟨core, clauses⟩ := ofStatement_of_reading read structural
  have normal : ofStatement (normalize sql) = ofNormalForm ts := by
    rw [NormalForm.normalize_of_tokenize read, ofStatement, NormalForm.tokenize_ofTokens legible]
    simp only [ofTokens_atStart]
    exact if_pos ((hasCore_ofNormalForm legible closed).trans core)
  rw [normal, clauses]
  exact ⟨rfl, fun _ noJoins => text_ofNormalForm legible closed noJoins,
    joins_ofNormalForm legible closed⟩

/-- A statement with two joins, of which the second has no condition, and two semicolons. -/
def joinedSelect : Text :=
  "select a from t left join u on t.i = u.i cross join v where (b);;".toList

theorem ofStatement_normalize_joinedSelect :
    (∃ ts, tokenize joinedSelect = .ok ts ∧ depthAt 0 ts = 0) ∧
      (ofStatement joinedSelect).reading = .tokens ∧
      (ofStatement (normalize joinedSelect)).reading = .tokens ∧
      (∀ kind, kind ≠ .joins → (ofStatement (normalize joinedSelect)).text kind =
        normalize ((ofStatement joinedSelect).text kind)) ∧
      (ofStatement (normalize joinedSelect)).joins =
        (ofStatement joinedSelect).joins.map normalize := by
  obtain ⟨ts, read, closed⟩ : ∃ ts, tokenize joinedSelect = .ok ts ∧ depthAt 0 ts = 0 := by
    refine ⟨tokensOf joinedSelect, ?_⟩
    decide +kernel
  have structural : (ofStatement joinedSelect).reading = .tokens := by decide +kernel
  exact ⟨⟨ts, read, closed⟩, structural,
    ofStatement_normalize joinedSelect ts read structural closed⟩

end SqlGrader.ClauseSet
