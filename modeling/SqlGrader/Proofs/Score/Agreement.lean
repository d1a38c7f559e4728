import SqlGrader.Proofs.Score.ComponentMatch
import SqlGrader.Proofs.Score.ExactMatch
import SqlGrader.Proofs.Score.Similarity
import SqlGrader.Proofs.Sql.Names
/-!
# Where the two text metrics agree

Exact match compares statements as a whole, component match compares texts cut
out of them. Where the two statements are read in the same way and the names of
their tables agree, a full score of the first metric means full scores for all
clauses.
-/

namespace SqlGrader

open Token NormalForm

variable {α : Type} [Scale α]

namespace ComponentMatch

variable {a b : Text} {ts us : List Token} {f : Token → Token}

/-- What an item is credited for: its expression, and that it has an alias. -/
def credited (i : ProjectionItem) : Text × Bool := (i.expression, i.aliasName.isSome)

theorem Credit.ofPair_of_credited {i j : ProjectionItem} (same : credited i = credited j) :
    ofPair i j = full := by
  obtain ⟨expression, aliases⟩ := Prod.mk.inj same
  simp [ofPair, expression, aliases]

/-- Items that agree in what they are credited for have full credit. -/
theorem Credit.pairing_of_credited {is js : List ProjectionItem}
    (same : is.map credited = js.map credited) :
    ∀ credit ∈ pairing is js, credit = full := by
  induction is generalizing js with
  | nil => simp [pairing]
  | cons i is ih =>
      obtain ⟨j, js, rfl, here, rest⟩ := List.map_eq_cons_iff.mp same.symm
      have full : (ofPair i j == full) = true := by simp [ofPair_of_credited here.symm]
      have found : (j :: js).any (ofPair i · == .full) := by simp [full]
      have first : (j :: js).eraseP (ofPair i · == .full) = js := List.eraseP_cons_of_pos full
      rw [pairing, if_pos found, first]
      exact List.forall_mem_cons.mpr ⟨rfl, ih rest.symm⟩

theorem projectionScore_of_credited {is js : List ProjectionItem}
    (same : is.map credited = js.map credited) :
    (projectionScore is js : α) = Scale.ofNat 1 := by
  have len : is.length = js.length := by simpa using congrArg List.length same
  have all : (Credit.pairing is js).all (· == .full) :=
    List.all_eq_true.mpr fun credit mem => by simpa using Credit.pairing_of_credited same credit mem
  rw [projectionScore, if_neg (not_not.mpr len), Credit.mean, if_pos all]

/-! ### Limits -/

theorem noWord_of_number {t : Token} (number : t.kind == .number) : ¬ t.isFoldable := by
  intro fold
  rw [isFoldable_word fold] at number
  cases number

/-- The first number of akin limits is the same. -/
theorem firstNumber?_akin (cosmetic : Cosmetic f) (akin : Akin f a b) :
    firstNumber? a = firstNumber? b := by
  obtain ⟨ts, us, twin, readLeft, readRight, -⟩ := akin.tokens cosmetic
  have blind : (fun t : Token => t.kind == .number) ∘ f = (·.kind == .number) := by
    funext t
    simp [cosmetic.kind]
  have first (vs : List Token) : (vs.find? (·.kind == .number)).map (·.text) =
      ((vs.map f).find? (·.kind == .number)).map (·.foldedText) := by
    rw [List.find?_map, blind, Option.map_map]
    refine Option.map_congr fun t found => ?_
    have number := List.find?_some found
    have noWord := noWord_of_number number
    exact (if_neg noWord).symm.trans (cosmetic.foldedText t).symm
  rw [firstNumber?, firstNumber?, readLeft, readRight]
  simp only
  rw [first, twin.same, ← first]

/-- Limits are the same if the first of them has a number, or if the texts agree. -/
theorem sameLimit_of_akin (cosmetic : Cosmetic f) (akin : Akin f a b)
    (texts : firstNumber? a = none → Text.equalsIgnoringCase a b) : sameLimit a b := by
  have numbers := firstNumber?_akin cosmetic akin
  unfold sameLimit
  cases number : firstNumber? a with
  | none => simp [← numbers, number, texts number]
  | some n => simp [← numbers, number]

/-- Limits that differ in the case of keywords only have the same text. -/
theorem equalsIgnoringCase_of_akin (akin : Akin folded a b) : Text.equalsIgnoringCase a b := by
  obtain ⟨ts, us, twin, rfl, rfl⟩ := akin
  have texts : Text.upper (render ts) = Text.upper (render us) := by
    rw [← upper_render_map_folded ts, twin.same, upper_render_map_folded us]
  simp [Text.equalsIgnoringCase, texts]

theorem sameLimit_self (a : Text) : sameLimit a a := by
  unfold sameLimit
  cases firstNumber? a <;> simp [Text.equalsIgnoringCase]

end ComponentMatch

/-! ### Statements that agree -/

namespace Statement

open ComponentMatch

variable {r p : Statement} {c d : ClauseSet} {f : Token → Token}

/-- Statements that have the same clauses with the same fragments. -/
structure Agrees (r p : Statement) : Prop where
  present (kind : ClauseKind) : r.clauses.isPresent kind = p.clauses.isPresent kind
  projection : r.projection.map credited = p.projection.map credited
  tables : r.tables = p.tables
  joins : r.joins = p.joins
  filter : r.conditions false r.clauses.filter = p.conditions false p.clauses.filter
  having : r.conditions true r.clauses.having = p.conditions true p.clauses.having
  grouping : r.items r.clauses.grouping = p.items p.clauses.grouping
  ordering : r.ordering = p.ordering
  limit : sameLimit r.clauses.limit p.clauses.limit

namespace Agrees

theorem refl (r : Statement) : r.Agrees r :=
  ⟨fun _ => rfl, rfl, rfl, rfl, rfl, rfl, rfl, rfl, sameLimit_self r.clauses.limit⟩

theorem presentScore (agrees : r.Agrees p) (kind : ClauseKind) :
    (presentScore kind r p : α) = Scale.ofNat 1 := by
  cases kind with
  | projection => rw [ComponentMatch.presentScore, projectionScore_of_credited agrees.projection]
  | source => rw [ComponentMatch.presentScore, agrees.tables, Similarity.jaccard_self]
  | joins => rw [ComponentMatch.presentScore, agrees.joins, Similarity.jaccard_self]
  | filter => rw [ComponentMatch.presentScore, agrees.filter, Similarity.jaccard_self]
  | having => rw [ComponentMatch.presentScore, agrees.having, Similarity.jaccard_self]
  | grouping => rw [ComponentMatch.presentScore, agrees.grouping, Similarity.jaccard_self]
  | ordering => rw [ComponentMatch.presentScore, agrees.ordering, Similarity.jaccard_self]
  | limit => rw [ComponentMatch.presentScore, if_pos agrees.limit]

/-- Every clause of statements that agree has the full score. -/
theorem clauseScore (agrees : r.Agrees p) (kind : ClauseKind) :
    (clauseScore kind r p : α) = Scale.ofNat 1 := by
  rw [ComponentMatch.clauseScore, agrees.present kind, agrees.presentScore kind]
  cases p.clauses.isPresent kind <;> rfl

/-- The weights of all clauses sum up to the total weight. -/
theorem totalScore (agrees : r.Agrees p) : (totalScore r p : Float) = 1.0 := by
  have scores : (order.map fun k => Scale.ofNat (weight k) * ComponentMatch.clauseScore k r p) =
      order.map fun k => (Scale.ofNat (weight k) * Scale.ofNat 1 : Float) :=
    List.map_congr_left fun kind _ => by rw [agrees.clauseScore kind]
  rw [ComponentMatch.totalScore, scores]
  decide +kernel

end Agrees

/-- Alike clauses of the same tables, with projections that start alike and the same limit, make
statements that agree. -/
theorem agrees_of_alike (cosmetic : Cosmetic f) (alike : c.Alike f d)
    (tables : Scope.SameTables c d)
    (start : ProjectionItem.StartAlike c.projection d.projection)
    (limit : sameLimit c.limit d.limit) :
    (Statement.mk c (Scope.ofClauses c)).Agrees (Statement.mk d (Scope.ofClauses d)) := by
  have text : ∀ kind, kind ≠ .joins → Alike f (c.text kind) (d.text kind) := alike.text
  rw [alike.scope cosmetic tables start]
  constructor
  · exact alike.isPresent
  · exact congrArg (List.map credited) ((text .projection (by simp)).projection cosmetic start _)
  · have names := congrArg (List.filterMap fun r => r.map (·.name)) tables.sources
    rwa [List.filterMap_map, List.filterMap_map] at names
  · exact map_canonicalJoin cosmetic alike.joins tables.joined
  · exact (text .filter (by simp)).conditions cosmetic _ false
  · exact (text .having (by simp)).conditions cosmetic _ true
  · exact (text .grouping (by simp)).items cosmetic _
  · exact congrArg (List.map withoutAscending) ((text .ordering (by simp)).items cosmetic _)
  · exact limit

end Statement

/-! ### Statements that are read alike -/

variable {ts us : List Token} {r p : Text}

/-- The same tokens, without the gap before the first one, are twins. -/
theorem ExactMatch.SameTokens.twin (same : SameTokens ts us) (left : Legible ts)
    (right : Legible us) (plain : ∀ t ∈ ts, t.Plain) :
    Twin folded (atStart ts) (atStart us) := by
  obtain ⟨-, -, agree⟩ := sameTokens_iff.mp same
  rw [← map_folded_atStart, ← map_folded_atStart] at agree
  exact .of_same cosmetic_folded left.atStart right.atStart (plain_atStart plain) agree

/-- What keeps the clauses of the same tokens the same. -/
structure TokensAlike (ts us : List Token) : Prop where
  /-- The clauses are read from the tokens. -/
  core : (ClauseSet.ofTokens ts).hasCore
  /-- The semicolons at the end are outside of parentheses, or they agree too. -/
  closed : depthAt 0 (dropTerminators ts) = 0 ∨ ExactMatch.SameTokens ts us
  plain : ∀ t ∈ ts, t.Plain
  joins : ∀ join ∈ (ClauseSet.ofTokens ts).joins, Join.Readable join
  names : Scope.SameNames (ClauseSet.ofTokens ts) (ClauseSet.ofTokens us)

/-- The ways in which two statements are read alike. -/
inductive ReadAlike (r p : Text) : Prop
  /-- Neither statement has tokens. -/
  | untokenized (left : ∀ ts, tokenize r ≠ .ok ts) (right : ∀ us, tokenize p ≠ .ok us)
  /-- No clauses are read from the tokens, and the texts agree word by word. -/
  | wordwise (left : (ClauseSet.ofStatement r).reading = .wordwise)
      (right : (ClauseSet.ofStatement p).reading = .wordwise)
      (same : Wordwise.normalize r = Wordwise.normalize p)
  /-- Both statements have tokens, and these keep their clauses. -/
  | tokens (ts us : List Token) (left : tokenize r = .ok ts) (right : tokenize p = .ok us)
      (alike : TokensAlike ts us)

theorem ClauseSet.ofStatement_of_wordwise (reading : (ofStatement r).reading = .wordwise) :
    ofStatement r = ClauseWords.clauses r := by
  unfold ofStatement at reading ⊢
  split at reading
  · dsimp only at reading ⊢
    split at reading
    · cases reading
    · next noCore => rw [if_neg noCore]
  · rfl

theorem Statement.ofText_eq_of_wordwise (left : (ClauseSet.ofStatement r).reading = .wordwise)
    (right : (ClauseSet.ofStatement p).reading = .wordwise)
    (same : Wordwise.normalize r = Wordwise.normalize p) :
    ofText r = ofText p := by
  have clauses : ClauseSet.ofStatement r = ClauseSet.ofStatement p := by
    rw [ClauseSet.ofStatement_of_wordwise left, ClauseSet.ofStatement_of_wordwise right,
      ClauseWords.clauses, ClauseWords.clauses, same]
  rw [ofText, ofText, clauses]

/-- The same tokens have akin clauses. -/
theorem TokensAlike.akin (alike : TokensAlike ts us) (left : Legible ts) (right : Legible us)
    (same : ExactMatch.SameTokens (dropTerminators ts) (dropTerminators us)) :
    (ClauseSet.ofTokens ts).Akin folded (Join.Twins folded) (ClauseSet.ofTokens us) := by
  have akin : ∀ {vs ws : List Token}, ClauseSet.ofTokens vs = ClauseSet.ofTokens ts →
      ClauseSet.ofTokens ws = ClauseSet.ofTokens us → Twin folded (atStart vs) (atStart ws) →
        (ClauseSet.ofTokens ts).Akin folded (Join.Twins folded) (ClauseSet.ofTokens us) := by
    intro vs ws here there twin
    have clauses := ClauseSet.akin_ofTokens cosmetic_folded twin
    rwa [ClauseSet.ofTokens_atStart, ClauseSet.ofTokens_atStart, here, there] at clauses
  rcases alike.closed with closed | whole
  · have twin := same.twin (legible_dropTerminators left) (legible_dropTerminators right)
      fun t mem => alike.plain t ((dropTerminators_isPrefix ts).subset mem)
    have closed' : depthAt 0 (dropTerminators us) = 0 := by
      rw [← depthAt_atStart, ← cosmetic_folded.neutral.depthAt, ← twin.same,
        cosmetic_folded.neutral.depthAt,
        depthAt_atStart, closed]
    exact akin (ClauseSet.ofTokens_dropTerminators ts closed)
      (ClauseSet.ofTokens_dropTerminators us closed') twin
  · exact akin rfl rfl (whole.twin left right alike.plain)

/-- The joins of the same tokens are akin. -/
theorem TokensAlike.textsAkin (alike : TokensAlike ts us)
    (akin : (ClauseSet.ofTokens ts).Akin folded (Join.Twins folded) (ClauseSet.ofTokens us)) :
    List.Forall₂ (Join.TextsAkin folded) (ClauseSet.ofTokens ts).joins
      (ClauseSet.ofTokens us).joins :=
  Join.textsAkin_of_twins cosmetic_folded akin.joins
    (Join.cutAlike_of_twins akin.joins alike.joins)

/-- The same tokens make statements that agree. -/
theorem TokensAlike.agrees (alike : TokensAlike ts us)
    (akin : (ClauseSet.ofTokens ts).Akin folded (Join.Twins folded) (ClauseSet.ofTokens us)) :
    (Statement.mk (.ofTokens ts) (Scope.ofClauses (.ofTokens ts))).Agrees
      (Statement.mk (.ofTokens us) (Scope.ofClauses (.ofTokens us))) := by
  have projection : Akin folded (ClauseSet.ofTokens ts).projection
    (ClauseSet.ofTokens us).projection := akin.text .projection (by simp)
  have limit : Akin folded (ClauseSet.ofTokens ts).limit (ClauseSet.ofTokens us).limit :=
    akin.text .limit (by simp)
  exact Statement.agrees_of_alike cosmetic_folded (akin.alike (alike.textsAkin akin))
    (alike.names.sameTables cosmetic_folded akin (alike.textsAkin akin)) projection.startAlike
    (ComponentMatch.sameLimit_of_akin cosmetic_folded limit fun _ =>
      ComponentMatch.equalsIgnoringCase_of_akin limit)

/-- Statements that match and are read alike have the same fragments. -/
theorem ReadAlike.agrees (alike : ReadAlike r p)
    (full : ExactMatch.isMatch (NormalForm.ofStatement r) (NormalForm.ofStatement p)) :
    (Statement.ofText r).Agrees (Statement.ofText p) := by
  cases alike with
  | untokenized left right =>
      cases readLeft : tokenize r with
      | ok ts => exact absurd readLeft (left ts)
      | error e =>
          cases readRight : tokenize p with
          | ok us => exact absurd readRight (right us)
          | error f =>
              have same : Wordwise.normalize r = Wordwise.normalize p := by
                simp only [ExactMatch.isMatch, NormalForm.ofStatement, readLeft, readRight,
                  Bool.and_eq_true, beq_iff_eq] at full
                exact full.2
              rw [Statement.ofText_eq_of_wordwise ?_ ?_ same]
              · exact .refl _
              · rw [ClauseSet.ofStatement, readLeft]
                rfl
              · rw [ClauseSet.ofStatement, readRight]
                rfl
  | wordwise left right same =>
      rw [Statement.ofText_eq_of_wordwise left right same]
      exact .refl _
  | tokens ts us readLeft readRight alike =>
      have left := legible_of_tokenize readLeft
      have right := legible_of_tokenize readRight
      rw [NormalForm.ofStatement, NormalForm.ofStatement, readLeft, readRight,
        ExactMatch.isMatch_ofTokens left right] at full
      have akin := alike.akin left right full
      have core := alike.core
      have core' := (akin.alike (alike.textsAkin akin)).hasCore ▸ core
      rw [Statement.ofText, Statement.ofText, ClauseSet.ofStatement, ClauseSet.ofStatement,
        readLeft, readRight]
      simp only [core, core', if_true]
      exact alike.agrees akin

namespace ComponentMatch

/-- Statements that agree have the full score for every clause and for the whole, and so says the
verdict. -/
theorem score_of_agrees {m : Type → Type} [Monad m] (c : Context m)
    (left : Text.isAllBlank c.reference = false) (right : Text.isAllBlank c.predicted = false)
    (agrees : (Statement.ofText c.reference).Agrees (Statement.ofText c.predicted)) :
    ∃ v, metric.score c = pure (.value v) ∧ v.score = 1.0 ∧ v.isCorrect = true ∧
      ∀ kind, (clauseScore kind (Statement.ofText c.reference) (Statement.ofText c.predicted) :
        Float) = 1.0 ∧ reportedScore? v kind = some 1.0 := by
  obtain ⟨v, value, reports⟩ := score_reports defaultThreshold c left right
  have total := agrees.totalScore
  have clause (kind : ClauseKind) :
      (clauseScore kind (Statement.ofText c.reference) (Statement.ofText c.predicted) :
        Float) = 1.0 := agrees.clauseScore kind
  refine ⟨v, value, ?_, ?_, fun kind => ⟨clause kind, ?_⟩⟩
  · rw [reports.score, total]
    decide +kernel
  · rw [reports.isCorrect, total]
    decide +kernel
  · rw [reports.clause kind, clause kind]

/-- If exact match gives two statements that are read alike the full score, then
component match gives it to every clause and to the whole. -/
theorem score_full_of_exactMatch {m : Type → Type} [Monad m] (c : Context m)
    (left : Text.isAllBlank c.reference = false) (right : Text.isAllBlank c.predicted = false)
    (full : (ExactMatch.compare c.reference c.predicted).score = 1.0)
    (alike : ReadAlike c.reference c.predicted) :
    ∃ v, metric.score c = pure (.value v) ∧ v.score = 1.0 ∧ v.isCorrect = true ∧
      ∀ kind, (clauseScore kind (Statement.ofText c.reference) (Statement.ofText c.predicted) :
        Float) = 1.0 ∧ reportedScore? v kind = some 1.0 := by
  have same : ExactMatch.isMatch (NormalForm.ofStatement c.reference)
      (NormalForm.ofStatement c.predicted) := by
    by_contra other
    have zero := ((ExactMatch.score_compare _ _).2 other).1
    rw [full] at zero
    exact absurd zero (by decide)
  exact score_of_agrees c left right (alike.agrees same)

/-- A join in small letters and a semicolon do not matter. -/
theorem score_full_of_exactMatch_join :
    ∃ v, (metric (m := Id)).score
        ⟨"q", "SELECT a FROM t JOIN u".toList, "select a from t join u;".toList, none⟩ =
          pure (.value v) ∧
      v.score = 1.0 ∧ v.isCorrect = true ∧
      ∀ kind, (clauseScore kind (Statement.ofText "SELECT a FROM t JOIN u".toList)
        (Statement.ofText "select a from t join u;".toList) : Float) = 1.0 ∧
          reportedScore? v kind = some 1.0 := by
  have left : tokenize "SELECT a FROM t JOIN u".toList = .ok
      [⟨.word, "SELECT".toList, false⟩, ⟨.word, ['a'], true⟩, ⟨.word, "FROM".toList, true⟩,
        ⟨.word, ['t'], true⟩, ⟨.word, "JOIN".toList, true⟩, ⟨.word, ['u'], true⟩] := by
    decide +kernel
  have right : tokenize "select a from t join u;".toList = .ok
      [⟨.word, "select".toList, false⟩, ⟨.word, ['a'], true⟩, ⟨.word, "from".toList, true⟩,
        ⟨.word, ['t'], true⟩, ⟨.word, "join".toList, true⟩, ⟨.word, ['u'], true⟩,
        ⟨.symbol, [';'], false⟩] := by decide +kernel
  refine score_full_of_exactMatch (m := Id)
    ⟨"q", "SELECT a FROM t JOIN u".toList, "select a from t join u;".toList, none⟩
    (by decide) (by decide) (by decide +kernel)
    (.tokens _ _ left right ⟨by decide +kernel, .inl rfl, ?_, ?_, ?_⟩)
  · decide
  · have joins : (ClauseSet.ofTokens
        [⟨.word, "SELECT".toList, false⟩, ⟨.word, ['a'], true⟩, ⟨.word, "FROM".toList, true⟩,
          ⟨.word, ['t'], true⟩, ⟨.word, "JOIN".toList, true⟩, ⟨.word, ['u'], true⟩]).joins =
        ["JOIN u".toList] := by decide +kernel
    have join : Join.ofText? "JOIN u".toList = some ⟨"JOIN".toList, " u".toList, []⟩ := by
      decide +kernel
    rw [joins]
    rintro j mem x found
    rw [List.mem_singleton.mp mem, join] at found
    obtain rfl := Option.some.inj found
    exact ⟨[⟨.word, ['u'], false⟩], by decide +kernel⟩
  · rw [Scope.SameNames]
    decide +kernel

/-- Whether exact match gives two statements the full score and component match
does not. -/
def Disagree (reference predicted : String) : Prop :=
  let c : Context Id := ⟨"q", reference.toList, predicted.toList, none⟩
  (ExactMatch.metric.evaluate c).score = 1.0 ∧ (metric.evaluate c).score ≠ 1.0

/-- Without each of the conditions the metrics disagree: one statement has no
tokens, the name of a table is a keyword, a semicolon stands in open parentheses,
clauses are read word by word, the table of a join has no tokens, or a number
follows white space that is no gap. -/
theorem score_not_full_of_exactMatch :
    Disagree "SELECT f(a FROM 2), ' '" "SELECT f(a FROM 2), ' /* ' */ '" ∧
      Disagree "SELECT a FROM date" "SELECT a FROM DATE" ∧
      Disagree "SELECT (a" "SELECT (a;" ∧
      Disagree "(SELECT '/*' FROM t)" "(SELECT '/*' /* x */ FROM t)" ∧
      Disagree "SELECT a FROM t JOIN \"x ON y\" ON 1and 2"
        "SELECT a FROM t JOIN \"x ON y\" ON 1AND 2" ∧
      Disagree "SELECT \u00a05e+12.e5as" "SELECT \u00a05e+12.e5AS" := by
  unfold Disagree
  decide +kernel

end ComponentMatch

end SqlGrader
