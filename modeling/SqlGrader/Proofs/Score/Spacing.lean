import SqlGrader.Proofs.Score.Agreement
import SqlGrader.Proofs.Sql.Spacing
/-!
# Component match and the gaps between tokens

Statements whose tokens are the same, one by one, differ in the gaps between them
only. Component match compares canonical texts, which have gaps in fixed places,
so such statements have full scores, unless a step before that looks at
characters and finds a gap there, or finds none.
-/

namespace SqlGrader

open Token

variable {ts us : List Token} {r p : Text} {as bs : List Text} {f : Token → Token}

/-- What a token is, apart from the gap before it. -/
def Token.content (t : Token) : TokenKind × Text := (t.kind, t.text)

theorem Token.map_unspaced_of_content (same : ts.map content = us.map content) :
    ts.map unspaced = us.map unspaced := by
  have rebuilt (vs : List Token) :
      vs.map unspaced = (vs.map content).map fun c => ⟨c.1, c.2, false⟩ := by
    rw [List.map_map]
    rfl
  rw [rebuilt, same, ← rebuilt]

theorem Join.alike_of_twins (cosmetic : Cosmetic f) (twins : List.Forall₂ (Twins f) as bs)
    (cut : List.Forall₂ (fun a b => a = b ∨ CutAlike a b) as bs) :
    List.Forall₂ (Join.Alike f) as bs := by
  induction twins with
  | nil => exact .nil
  | cons here _ ih =>
      obtain ⟨first, others⟩ := List.forall₂_cons.mp cut
      exact .cons (first.imp_right (here.textsAkin cosmetic)) (ih others)

/-- The ways in which the clauses of two statements are the same but for gaps. -/
inductive KeepsClauses (r p : Text) (ts us : List Token) : Prop
  /-- The clauses are read from the tokens, no token but a quoted one holds white space, and joins
  that differ are cut after equally many tokens. -/
  | tokens (core : (ClauseSet.ofTokens ts).hasCore) (plain : ∀ t ∈ ts, t.Plain)
      (joins : List.Forall₂ (fun a b => a = b ∨ Join.CutAlike a b) (ClauseSet.ofTokens ts).joins
        (ClauseSet.ofTokens us).joins)
  /-- The clauses are alike, however they were read. -/
  | alike (alike : (ClauseSet.ofStatement r).Alike unspaced (ClauseSet.ofStatement p))

/-- What keeps gaps between tokens from showing in a score. -/
structure HidesGaps (r p : Text) (ts us : List Token) : Prop where
  clauses : KeepsClauses r p ts us
  /-- A `DISTINCT` or an `ALL` at the start of the projection has a gap after it in both statements
  or in neither. -/
  start : ProjectionItem.StartAlike (ClauseSet.ofStatement r).projection
    (ClauseSet.ofStatement p).projection
  /-- Limits without a number, which are compared as texts, are the same text. -/
  limit : (ComponentMatch.firstNumber? (ClauseSet.ofStatement r).limit).isSome ∨
    Text.equalsIgnoringCase (ClauseSet.ofStatement r).limit (ClauseSet.ofStatement p).limit

/-- Clauses that are read from the same tokens are alike. -/
theorem KeepsClauses.clauses_alike (keeps : KeepsClauses r p ts us) (left : tokenize r = .ok ts)
    (right : tokenize p = .ok us) (same : ts.map content = us.map content) :
    (ClauseSet.ofStatement r).Alike unspaced (ClauseSet.ofStatement p) := by
  cases keeps with
  | alike alike => exact alike
  | tokens core plain joins =>
      have twin : Twin unspaced ts us := .of_same cosmetic_unspaced (legible_of_tokenize left)
        (legible_of_tokenize right) plain (map_unspaced_of_content same)
      have akin := ClauseSet.akin_ofTokens cosmetic_unspaced twin
      have alike : (ClauseSet.ofTokens ts).Alike unspaced (ClauseSet.ofTokens us) :=
        ⟨fun kind noJoins => .inr (akin.text kind noJoins),
          Join.alike_of_twins cosmetic_unspaced akin.joins joins⟩
      have core' := alike.hasCore ▸ core
      rw [ClauseSet.ofStatement, ClauseSet.ofStatement, left, right]
      simpa only [core, core', if_true] using alike

theorem HidesGaps.agrees (hides : HidesGaps r p ts us) (left : tokenize r = .ok ts)
    (right : tokenize p = .ok us) (same : ts.map content = us.map content) :
    (Statement.ofText r).Agrees (Statement.ofText p) := by
  have alike := hides.clauses.clauses_alike left right same
  refine Statement.agrees_of_alike cosmetic_unspaced alike alike.sameTables hides.start ?_
  rcases alike.text .limit (by simp) with equal | akin
  · have limits : (ClauseSet.ofStatement r).limit = (ClauseSet.ofStatement p).limit := equal
    rw [limits]
    exact ComponentMatch.sameLimit_self _
  · refine ComponentMatch.sameLimit_of_akin cosmetic_unspaced akin fun none => ?_
    exact hides.limit.resolve_left (by simp [none])

namespace ComponentMatch

/-- Statements that differ in gaps only have the full score for every clause and for the whole,
where nothing lets the gaps show. -/
theorem score_full_of_sameContents {m : Type → Type} [Monad m] (c : Context m)
    (ts us : List Token) (left : Text.isAllBlank c.reference = false)
    (right : Text.isAllBlank c.predicted = false) (readLeft : tokenize c.reference = .ok ts)
    (readRight : tokenize c.predicted = .ok us) (same : ts.map content = us.map content)
    (hides : HidesGaps c.reference c.predicted ts us) :
    ∃ v, metric.score c = pure (.value v) ∧ v.score = 1.0 ∧ v.isCorrect = true ∧
      ∀ kind, (clauseScore kind (Statement.ofText c.reference) (Statement.ofText c.predicted) :
        Float) = 1.0 ∧ reportedScore? v kind = some 1.0 :=
  score_of_agrees c left right (hides.agrees readLeft readRight same)

/-- Gaps around the operator of a join condition do not matter. -/
theorem score_full_of_sameContents_join :
    ∃ v, (metric (m := Id)).score
        ⟨"q", "SELECT a FROM t JOIN u ON a=b".toList, "SELECT a FROM t JOIN u ON a = b".toList,
          none⟩ = pure (.value v) ∧
      v.score = 1.0 ∧ v.isCorrect = true ∧
      ∀ kind, (clauseScore kind (Statement.ofText "SELECT a FROM t JOIN u ON a=b".toList)
        (Statement.ofText "SELECT a FROM t JOIN u ON a = b".toList) : Float) = 1.0 ∧
          reportedScore? v kind = some 1.0 := by
  let front : List Token := [⟨.word, "SELECT".toList, false⟩, ⟨.word, ['a'], true⟩,
    ⟨.word, "FROM".toList, true⟩, ⟨.word, ['t'], true⟩, ⟨.word, "JOIN".toList, true⟩,
    ⟨.word, ['u'], true⟩, ⟨.word, "ON".toList, true⟩, ⟨.word, ['a'], true⟩]
  let tight := front ++ [⟨.symbol, ['='], false⟩, ⟨.word, ['b'], false⟩]
  let wide := front ++ [⟨.symbol, ['='], true⟩, ⟨.word, ['b'], true⟩]
  have left : tokenize "SELECT a FROM t JOIN u ON a=b".toList = .ok tight := by decide +kernel
  have right : tokenize "SELECT a FROM t JOIN u ON a = b".toList = .ok wide := by decide +kernel
  have joins : (ClauseSet.ofTokens tight).joins = ["JOIN u ON a=b".toList] ∧
      (ClauseSet.ofTokens wide).joins = ["JOIN u ON a = b".toList] := by decide +kernel
  have cut : Join.CutAlike "JOIN u ON a=b".toList "JOIN u ON a = b".toList := by
    have here : Join.ofText? "JOIN u ON a=b".toList =
        some ⟨"JOIN".toList, " u".toList, " ON a=b".toList⟩ := by decide +kernel
    have there : Join.ofText? "JOIN u ON a = b".toList =
        some ⟨"JOIN".toList, " u".toList, " ON a = b".toList⟩ := by decide +kernel
    have target : tokenize "u".toList = .ok [⟨.word, ['u'], false⟩] := by decide +kernel
    intro x y found found'
    obtain rfl := Option.some.inj (found.symm.trans here)
    obtain rfl := Option.some.inj (found'.symm.trans there)
    exact ⟨_, _, target, target, rfl⟩
  refine score_full_of_sameContents (m := Id)
    ⟨"q", "SELECT a FROM t JOIN u ON a=b".toList, "SELECT a FROM t JOIN u ON a = b".toList, none⟩
    tight wide (by decide) (by decide) left right (by decide) ⟨.tokens ?_ ?_ ?_, ?_, .inr ?_⟩
  · decide +kernel
  · decide
  · rw [joins.1, joins.2]
    exact .cons (.inr cut) .nil
  · rw [ProjectionItem.StartAlike]
    decide +kernel
  · decide +kernel

/-- What the tokens of a text are, apart from the gaps, if it has tokens. -/
def contents? (t : Text) : Option (List (TokenKind × Text)) :=
  (tokenize t).toOption.map (·.map content)

/-- Whether the tokens of two statements differ in gaps only and component match does not give
the full score. -/
def ShowsGaps (reference predicted : String) : Prop :=
  (contents? reference.toList).isSome ∧
    contents? reference.toList = contents? predicted.toList ∧
    (metric.evaluate (m := Id) ⟨"q", reference.toList, predicted.toList, none⟩).score ≠ 1.0

instance (reference predicted : String) : Decidable (ShowsGaps reference predicted) :=
  inferInstanceAs (Decidable (_ ∧ _ ∧ _))

/-- Without each of the conditions gaps show: a limit without a number is compared as it is
written, an opening parenthesis follows `DISTINCT` or `ALL`, the condition of a join is not marked
by gaps, clauses are read word by word, or a word starts with white space that is no gap. -/
theorem score_not_full_of_sameContents :
    ShowsGaps "SELECT a LIMIT b+c" "SELECT a LIMIT b + c" ∧
      ShowsGaps "SELECT DISTINCT(a)" "SELECT DISTINCT (a)" ∧
      ShowsGaps "SELECT ALL(a)" "SELECT ALL (a)" ∧
      ShowsGaps "SELECT a FROM t JOIN u ON'x'" "SELECT a FROM t JOIN u ON 'x'" ∧
      ShowsGaps "(SELECT 1FROM t)" "(SELECT 1 FROM t)" ∧
      ShowsGaps "SELECT \u00a05e+12" "SELECT \u00a05e +12" := by
  decide +kernel

end ComponentMatch

end SqlGrader
