import SqlGrader.Proofs.Score.UnitInterval
import SqlGrader.Proofs.Sql.ClauseTokens
import SqlGrader.Proofs.Sql.Wordwise
/-!
# A join that is left out

A prediction may have the clauses of its reference but for one join. It is compared without an
error, and joins are compared as sets of canonical texts, each in the names of its own statement. So
the missing join costs points if the two sets differ, as they do where no two joins of the reference
have one canonical text. A join that is written twice is not missed.
-/

namespace SqlGrader

/-! ### Statements without text have no joins -/

theorem Wordwise.blank_collapseBlanks {t : Text} (blank : ∀ c ∈ t, Text.isBlank c = true)
    (goesOn : Bool) : ∀ c ∈ collapseBlanks goesOn t, Text.isBlank c = true := by
  induction t generalizing goesOn with
  | nil => exact nofun
  | cons d t ih =>
      obtain ⟨here, rest⟩ := List.forall_mem_cons.1 blank
      rw [collapseBlanks, if_pos here]
      split
      · exact ih rest true
      · exact List.forall_mem_cons.2 ⟨by decide, ih rest true⟩

theorem Wordwise.normalize_of_blank {sql : Text} (blank : ∀ c ∈ sql, Text.isBlank c = true) :
    normalize sql = [] := by
  have line : NoLineComment sql := fun part =>
    absurd (blank '-' (part.subset (by simp))) (by decide)
  have block : NoBlockComment sql := fun before body after whole =>
    absurd (blank '/' (by simp [whole])) (by decide)
  have start : Text.trimStart (collapseBlanks false sql) = [] :=
    List.dropWhile_eq_nil_iff.2 (blank_collapseBlanks blank false)
  rw [normalize, clean, dropBlockComments_of_free block, dropLineComments_of_free line, Text.trim,
    start]
  rfl

namespace ClauseSet

variable {sql : Text}

/-- The second set of clauses is the first one without one of its joins. The two may be read in
different ways. -/
def DropsJoin (c d : ClauseSet) : Prop :=
  ∃ front join back, c.joins = front ++ join :: back ∧
    d = { c with joins := front ++ back, reading := d.reading }

theorem joins_ofStatement_of_blank (blank : Text.isAllBlank sql = true) :
    (ofStatement sql).joins = [] := by
  have wordwise : (ClauseWords.clauses sql).joins = [] := by
    rw [ClauseWords.clauses, Wordwise.normalize_of_blank (List.all_eq_true.1 blank), Run.ofText,
      ClauseWords.partsFrom]
    rfl
  rw [ofStatement]
  cases read : tokenize sql with
  | error e => exact wordwise
  | ok ts =>
      simp only
      split
      · rw [ofTokens, Section.ofTokens_of_blank read blank]
        rfl
      · exact wordwise

end ClauseSet

/-! ### Scores -/

namespace ComponentMatch

variable {r p : Statement}

/-- Whether two statements have the same joins, as sets of canonical texts. -/
def SameJoins (r p : Statement) : Prop := ∀ t, t ∈ r.joins ↔ t ∈ p.joins

theorem clauseScore_joins_eq_one_iff (present : r.clauses.joins ≠ []) :
    (clauseScore .joins r p : Rat) = 1 ↔ SameJoins r p := by
  have left : r.clauses.isPresent .joins = true := by simpa [ClauseSet.isPresent] using present
  rw [clauseScore, left]
  cases right : p.clauses.isPresent .joins with
  | true => exact Similarity.jaccard_eq_one_iff
  | false =>
      have absent : p.joins = [] := by simpa [ClauseSet.isPresent, Statement.joins] using right
      obtain ⟨join, joins, first⟩ := List.exists_cons_of_ne_nil present
      refine iff_of_false ?_ fun same => ?_
      · change ((0 : Nat) : Rat) ≠ 1
        norm_num
      · have mem := (same (r.canonicalJoin join)).1 (by simp [Statement.joins, first])
        simp [absent] at mem

theorem clauseScore_joins_lt_one_iff (present : r.clauses.joins ≠ []) :
    (clauseScore .joins r p : Rat) < 1 ↔ ¬ SameJoins r p := by
  rw [(clauseScore_mem .joins r p).2.lt_iff_ne, ne_eq, clauseScore_joins_eq_one_iff present]

/-- A join less is a canonical text less, unless two joins have the same one. -/
theorem not_sameJoins_of_nodup (drops : r.clauses.DropsJoin p.clauses) (nodup : r.joins.Nodup) :
    ¬ SameJoins r p := by
  intro same
  obtain ⟨front, join, back, whole, rest⟩ := drops
  have within := (List.subperm_of_subset nodup fun t mem => (same t).1 mem).length_le
  have fewer : p.clauses.joins = front ++ back := congrArg ClauseSet.joins rest
  simp only [Statement.joins, List.length_map, whole, fewer, List.length_append,
    List.length_cons] at within
  omega

/-- A clause score that is not full keeps the total below that of the reference itself. -/
theorem totalScore_lt_self {kind : ClauseKind} (below : (clauseScore kind r p : Rat) < 1) :
    (totalScore r p : Rat) < totalScore r r := by
  have full : (totalScore r r : Rat) = 1 := (totalScore_eq_one_iff r r).2 fun kind =>
    ((Statement.Agrees.refl r).clauseScore kind).trans Nat.cast_one
  rw [full]
  refine lt_of_le_of_ne (totalScore_mem r p).2 fun here => ?_
  exact below.ne ((totalScore_eq_one_iff r p).1 here kind)

/-- What a missing join costs: points for the joins where these differ as sets, so where no two
joins of the reference agree, and then points in total. -/
structure MissingJoinCosts (r p : Statement) : Prop where
  joins : (clauseScore .joins r p : Rat) < 1 ↔ ¬ SameJoins r p
  distinct : r.joins.Nodup → ¬ SameJoins r p
  total : ¬ SameJoins r p → (totalScore r p : Rat) < totalScore r r

theorem missingJoinCosts (drops : r.clauses.DropsJoin p.clauses) : MissingJoinCosts r p := by
  have present : r.clauses.joins ≠ [] := by
    obtain ⟨front, join, back, whole, -⟩ := drops
    simp [whole]
  have below := clauseScore_joins_lt_one_iff (p := p) present
  exact ⟨below, not_sameJoins_of_nodup drops, fun differ => totalScore_lt_self (below.2 differ)⟩

/-- A prediction without one of the joins of its reference is compared without an error, unless it
is blank. The verdict reports the scores that the missing join costs points of. -/
theorem score_of_droppedJoin {m : Type → Type} [Monad m] (threshold : Float) (c : Context m)
    (drops : (ClauseSet.ofStatement c.reference).DropsJoin (ClauseSet.ofStatement c.predicted)) :
    (∃ v, v.error = none ∧ (metric threshold).score c =
        pure (if Text.isAllBlank c.predicted then .error .emptyPrediction else .value v) ∧
        Reports threshold (Statement.ofText c.reference) (Statement.ofText c.predicted) v) ∧
      MissingJoinCosts (Statement.ofText c.reference) (Statement.ofText c.predicted) := by
  have stated : Text.isAllBlank c.reference = false := by
    obtain ⟨front, join, back, whole, -⟩ := drops
    refine Bool.eq_false_iff.2 fun blank => ?_
    simp [ClauseSet.joins_ofStatement_of_blank blank] at whole
  have reports := reports_compare threshold c.reference c.predicted
  exact ⟨⟨_, reports.error, score_of_stated threshold c stated, reports⟩,
    missingJoinCosts (r := Statement.ofText c.reference) drops⟩

/-- A table is joined twice, and the second join is left out. -/
def oneOfTwoJoins : Context Id :=
  ⟨"q", "SELECT a FROM t JOIN u x ON x.i JOIN u y ON y.j".toList,
    "SELECT a FROM t JOIN u x ON x.i".toList, none⟩

theorem score_of_droppedJoin_oneOfTwo :
    (ClauseSet.ofStatement oneOfTwoJoins.reference).DropsJoin
        (ClauseSet.ofStatement oneOfTwoJoins.predicted) ∧
      (∃ v, (metric 1.0).score oneOfTwoJoins = pure (.value v) ∧ v.error = none ∧
        v.score = 0.925 ∧ v.isCorrect = false ∧ reportedScore? v .joins = some 0.5) ∧
      (Statement.ofText oneOfTwoJoins.reference).joins.Nodup ∧
      (totalScore (Statement.ofText oneOfTwoJoins.reference)
        (Statement.ofText oneOfTwoJoins.predicted) : Rat) <
        totalScore (Statement.ofText oneOfTwoJoins.reference)
          (Statement.ofText oneOfTwoJoins.reference) := by
  have drops : (ClauseSet.ofStatement oneOfTwoJoins.reference).DropsJoin
      (ClauseSet.ofStatement oneOfTwoJoins.predicted) :=
    ⟨["JOIN u x ON x.i".toList], "JOIN u y ON y.j".toList, [], by decide +kernel⟩
  have nodup : (Statement.ofText oneOfTwoJoins.reference).joins.Nodup := by decide +kernel
  obtain ⟨⟨v, error, value, reports⟩, costs⟩ := score_of_droppedJoin 1.0 oneOfTwoJoins drops
  refine ⟨drops, ⟨v, value, error, ?_, ?_, ?_⟩, nodup, costs.total (costs.distinct nodup)⟩
  · rw [reports.score]
    decide +kernel
  · rw [reports.isCorrect]
    decide +kernel
  · rw [reports.clause .joins]
    decide +kernel

/-- Whether the prediction lacks a join of the reference and has the full score nevertheless, in
exact numbers and in the verdict. -/
def Unnoticed (reference predicted : String) : Prop :=
  let r := Statement.ofText reference.toList
  let p := Statement.ofText predicted.toList
  let v := metric.evaluate (m := Id) ⟨"q", reference.toList, predicted.toList, none⟩
  r.clauses.DropsJoin p.clauses ∧ (clauseScore .joins r p : Rat) = 1 ∧
    (totalScore r p : Rat) = totalScore r r ∧ v.error = none ∧ v.score = 1.0 ∧
      reportedScore? v .joins = some 1.0

/-- A join that is there twice is not missed, under one name of its table or under two. Nor is one
without which a name in another join stands for the table that was named in the missing one. A blank
prediction is refused, even where a join is all that it lacks. -/
theorem droppedJoin_unnoticed :
    Unnoticed "SELECT a FROM t JOIN u ON a JOIN u ON a" "SELECT a FROM t JOIN u ON a" ∧
      Unnoticed "SELECT a FROM t JOIN u x ON x.i JOIN u y ON y.i"
        "SELECT a FROM t JOIN u x ON x.i" ∧
      Unnoticed "SELECT a FROM m k JOIN u m ON k.x JOIN u ON m.x JOIN u ON u.x"
        "SELECT a FROM m k JOIN u ON m.x JOIN u ON u.x" ∧
      (ClauseSet.ofStatement "JOIN u ON x".toList).DropsJoin (ClauseSet.ofStatement []) ∧
      (metric.evaluate (m := Id) ⟨"q", "JOIN u ON x".toList, [], none⟩).error =
        some "predicted SQL is empty" := by
  refine ⟨⟨⟨["JOIN u ON a".toList], "JOIN u ON a".toList, [], ?_⟩, ?_⟩,
    ⟨⟨["JOIN u x ON x.i".toList], "JOIN u y ON y.i".toList, [], ?_⟩, ?_⟩,
    ⟨⟨[], "JOIN u m ON k.x".toList, ["JOIN u ON m.x".toList, "JOIN u ON u.x".toList], ?_⟩, ?_⟩,
    ⟨[], "JOIN u ON x".toList, [], ?_⟩, ?_⟩
  all_goals decide +kernel

end ComponentMatch

end SqlGrader
