import Mathlib.Tactic.FieldSimp
import SqlGrader.Benchmark.Tabulation
import SqlGrader.Proofs.Benchmark.Totals
import SqlGrader.Proofs.Score.UnitInterval
/-!
# Summaries and their breakdown by difficulty

In exact numbers a summary says of each metric what its verdicts on the answered questions come to:
how many there are, how many are correct, and the mean of their scores. The same holds within each
difficulty, and what the difficulties say adds up to what the whole says. The one pass that counts
every verdict in two tables makes these summaries, and the order of the records does not matter.
-/

namespace SqlGrader

/-! ### Metrics that no one asked for -/

section Entries

variable {α : Type} [Scale α] {r : Record α} {records : List (Record α)} {names : List String}
  {name : String}

namespace MetricSummary

omit [Scale α] in
theorem verdictsOf_cons (name : String) (r : Record α) (records : List (Record α)) :
    verdictsOf name (r :: records) =
      (Keyed.get? name r.verdicts).toList ++ verdictsOf name records := by
  rw [verdictsOf, List.filterMap_cons, verdictsOf]
  cases Keyed.get? name r.verdicts <;> rfl

/-- The verdicts of a metric on the questions that were answered. -/
def counted (name : String) (records : List (Record α)) : List (Verdict α) :=
  verdictsOf name (records.filter (·.isAnswered))

omit [Scale α] in
theorem counted_cons (name : String) (r : Record α) (records : List (Record α)) :
    counted name (r :: records) = counted name [r] ++ counted name records := by
  rw [counted, ← List.singleton_append, List.filter_append, verdictsOf, List.filterMap_append]
  rfl

/-- A summary that is not there before the records is made by the first verdict. -/
theorem get?_foldl_addAll_of_none (nodup : ∀ r ∈ records, (r.verdicts.map (·.1)).Nodup)
    {summaries : Keyed (MetricSummary α)} (absent : Keyed.get? name summaries = none) :
    Keyed.get? name (records.foldl addAll summaries) =
      if verdictsOf name records = [] then none
      else some ((verdictsOf name records).foldl add .zero) := by
  induction records generalizing summaries with
  | nil => exact absent
  | cons r records ih =>
      obtain ⟨here, rest⟩ := List.forall_mem_cons.1 nodup
      have first := get?_addAll here name summaries
      rw [List.foldl_cons, verdictsOf_cons]
      cases verdict : Keyed.get? name r.verdicts with
      | none =>
          rw [verdict, absent] at first
          exact ih rest first
      | some v =>
          rw [verdict, absent] at first
          exact get?_foldl_addAll rest first

theorem sorted_addAll {summaries : Keyed (MetricSummary α)} (sorted : Keyed.Sorted summaries)
    (r : Record α) : Keyed.Sorted (addAll summaries r) := by
  rw [addAll]
  induction r.verdicts generalizing summaries with
  | nil => exact sorted
  | cons p ps ih => exact ih sorted.update

end MetricSummary

namespace Summary

theorem get?_noMetrics_eq_none (unasked : name ∉ names) :
    Keyed.get? name (noMetrics names : Keyed (MetricSummary α)) = none := by
  refine Keyed.get?_eq_none_iff.2 fun mem => unasked ?_
  simpa using Keyed.mem_names_ofList.1 mem

theorem sorted_metricsOf (names : List String) (records : List (Record α)) :
    Keyed.Sorted (metricsOf names records) := by
  rw [metricsOf]
  induction records.filter (·.isAnswered) using List.reverseRecOn with
  | nil => exact Keyed.sorted_ofList _
  | append_singleton records r ih =>
      rw [List.foldl_append]
      exact MetricSummary.sorted_addAll ih r

/-- A metric has a summary if it was asked for or has a verdict on an answered question. -/
theorem get?_metricsOf_eq (nodup : ∀ r ∈ records, (r.verdicts.map (·.1)).Nodup)
    (names : List String) (name : String) :
    Keyed.get? name (metricsOf names records) =
      if name ∈ names ∨ MetricSummary.counted name records ≠ [] then
        some ((MetricSummary.counted name records).foldl
          MetricSummary.add .zero)
      else none := by
  by_cases asked : name ∈ names
  · rw [get?_metricsOf nodup asked, if_pos (.inl asked)]
    rfl
  · have kept : ∀ r ∈ records.filter (·.isAnswered), (r.verdicts.map (·.1)).Nodup :=
      fun r mem => nodup r (List.mem_of_mem_filter mem)
    rw [metricsOf, MetricSummary.get?_foldl_addAll_of_none kept (get?_noMetrics_eq_none asked)]
    simp only [asked, false_or, ite_not, MetricSummary.counted]

end Summary

/-! ### Difficulties -/

namespace DifficultySummary

/-- The records of one difficulty sum up to their number, to the number of those that were answered,
and to the summaries of the metrics over them. -/
theorem foldl_add (records : List (Record α)) :
    records.foldl add .zero =
      ⟨records.length, records.countP (·.isAnswered), Summary.metricsOf [] records⟩ := by
  induction records using List.reverseRecOn with
  | nil => rfl
  | append_singleton records r ih =>
      rw [List.foldl_append, ih, List.foldl_cons, List.foldl_nil, add, List.length_append,
        List.countP_append, Summary.metricsOf, Summary.metricsOf, List.filter_append,
        List.foldl_append]
      cases answered : r.isAnswered <;> simp [answered]

end DifficultySummary

namespace Summary

/-- The records of a difficulty. -/
def within (difficulty : String) (records : List (Record α)) : List (Record α) :=
  records.filter (·.question.difficulty == difficulty)

omit [Scale α] in
theorem within_append_singleton (difficulty : String) (records : List (Record α)) (r : Record α) :
    within difficulty (records ++ [r]) =
      within difficulty records ++ if r.question.difficulty = difficulty then [r] else [] := by
  rw [within, List.filter_append, List.filter_singleton, within]
  by_cases same : r.question.difficulty = difficulty
  · rw [if_pos same, beq_iff_eq.2 same, Bool.cond_true]
  · rw [if_neg same, beq_false_of_ne same, Bool.cond_false]

/-- A difficulty that a record has is summed up by its records. -/
theorem get?_difficultiesOf (records : List (Record α)) (difficulty : String) :
    Keyed.get? difficulty (difficultiesOf records) =
      if within difficulty records = [] then none
      else some ((within difficulty records).foldl DifficultySummary.add .zero) := by
  induction records using List.reverseRecOn with
  | nil => rfl
  | append_singleton records r ih =>
      rw [difficultiesOf_append_singleton, Keyed.get?_update, within_append_singleton]
      by_cases same : r.question.difficulty = difficulty
      · subst same
        have more : within r.question.difficulty records ++ [r] ≠ [] := by simp
        rw [if_pos rfl, if_pos rfl, if_neg more, List.foldl_append, ih]
        -- The row of the difficulty is there already or is put in now.
        by_cases first : within r.question.difficulty records = []
        · rw [if_pos first, first]
          rfl
        · rw [if_neg first]
          rfl
      · rw [if_neg (Ne.symm same), if_neg same, ih, List.append_nil]

/-- A measure of the row of a difficulty, which is nothing where there is no row. -/
theorem getD_difficultiesOf (records : List (Record α)) (difficulty : String) :
    (Keyed.get? difficulty (difficultiesOf records)).getD .zero =
      (within difficulty records).foldl DifficultySummary.add .zero := by
  rw [get?_difficultiesOf]
  split
  next first =>
    rw [first]
    rfl
  next => rfl

end Summary

end Entries

/-! ### The one pass -/

namespace Tables

variable {α : Type} [Scale α]

omit [Scale α] in
theorem change_change (difficulty : String) (f g : DifficultySummary α → DifficultySummary α)
    (t : Tables α) :
    (t.change difficulty f).change difficulty g = t.change difficulty fun s => g (f s) := by
  rw [change, change, change, Keyed.update_update]

/-- Verdicts that are counted in both tables are counted in each. The induction is on the verdicts:
the row of the difficulty is there, since it was changed before. -/
theorem foldl_addVerdict (r : Record α) (t : Tables α)
    (f : DifficultySummary α → DifficultySummary α) :
    r.verdicts.foldl (addVerdict r.question.difficulty) (t.change r.question.difficulty f) =
      Tables.change r.question.difficulty
        (fun s => { f s with metrics := MetricSummary.addAll (f s).metrics r })
        { t with metrics := MetricSummary.addAll t.metrics r } := by
  simp only [MetricSummary.addAll]
  induction r.verdicts generalizing t f with
  | nil => rfl
  | cons p ps ih =>
      have first : addVerdict r.question.difficulty (t.change r.question.difficulty f) p =
          Tables.change r.question.difficulty
            (fun s => { f s with metrics := Keyed.update p.1 .zero (·.add p.2) (f s).metrics })
            { t with metrics := Keyed.update p.1 .zero (·.add p.2) t.metrics } :=
        change_change _ f _ { t with metrics := Keyed.update p.1 .zero (·.add p.2) t.metrics }
      rw [List.foldl_cons, first, ih]
      rfl

/-- One step of the pass counts the record in each table. -/
theorem add_eq (t : Tables α) (r : Record α) :
    t.add r = ⟨if r.isAnswered then MetricSummary.addAll t.metrics r else t.metrics,
      Keyed.update r.question.difficulty .zero (·.add r) t.difficulties⟩ := by
  have grows (s : DifficultySummary α) : s.add r =
      if r.isAnswered then ⟨s.total + 1, s.answered + 1, MetricSummary.addAll s.metrics r⟩
      else { s with total := s.total + 1 } := rfl
  rw [add]
  cases answered : r.isAnswered with
  | false => simp only [grows, answered]; rfl
  | true =>
      simp only [grows, answered, if_true, change_change, foldl_addVerdict]
      rfl

/-- The pass makes the tables of the summary. -/
theorem ofRecords_eq (names : List String) (records : List (Record α)) :
    ofRecords names records =
      ⟨Summary.metricsOf names records, Summary.difficultiesOf records⟩ := by
  induction records using List.reverseRecOn with
  | nil => rfl
  | append_singleton records r ih =>
      rw [ofRecords, List.foldl_append, ← ofRecords, ih, List.foldl_cons, List.foldl_nil, add_eq,
        Summary.difficultiesOf_append_singleton, Summary.metricsOf, Summary.metricsOf,
        List.filter_append, List.foldl_append, List.filter_singleton]
      cases r.isAnswered <;> rfl

end Tables

/-! ### Exact numbers -/

/-- The arithmetic mean, zero of no numbers. -/
def meanOf (xs : List Rat) : Rat := if xs = [] then 0 else xs.sum / xs.length

theorem length_mul_meanOf (xs : List Rat) : xs.length * meanOf xs = xs.sum := by
  rw [meanOf]
  split
  next none => simp [none]
  next some =>
    have nonzero : (xs.length : Rat) ≠ 0 := by simpa using some
    field_simp

namespace MetricSummary

/-- What a summary says of the verdicts that it is made of. -/
structure Describes (m : MetricSummary Rat) (verdicts : List (Verdict Rat)) : Prop where
  total : m.total = verdicts.length
  correct : m.correct = verdicts.countP (·.isCorrect)
  perfect : m.perfect = verdicts.countP fun v => 1 ≤ v.score
  referenceFailures : m.referenceFailures = verdicts.countP fun v => v.origin == some .reference
  average : m.average = meanOf (verdicts.map (·.score))
  accuracy : m.accuracy = if m.total = 0 then 0 else (m.correct : Rat) / m.total

/-- What a table says of records: it has a summary of each metric that is named, and of each one
that an answered question has a verdict of. -/
structure Tabulates (table : Keyed (MetricSummary Rat)) (names : List String)
    (records : List (Record Rat)) : Prop where
  entries : ∀ name, (Keyed.get? name table).isSome ↔
    name ∈ names ∨ ∃ r ∈ records, r.isAnswered ∧ (Keyed.get? name r.verdicts).isSome
  describes : ∀ name, ∀ m ∈ Keyed.get? name table,
    m.Describes (counted name records)

theorem correct_foldl_add (vs : List (Verdict Rat)) (s : MetricSummary Rat) :
    (vs.foldl add s).correct = s.correct + vs.countP (·.isCorrect) := by
  induction vs generalizing s with
  | nil => rfl
  | cons v vs ih =>
      rw [List.foldl_cons, ih, List.countP_cons]
      simp only [add, countIf]
      split <;> omega

theorem perfect_foldl_add (vs : List (Verdict Rat)) (s : MetricSummary Rat) :
    (vs.foldl add s).perfect = s.perfect + vs.countP fun v => 1 ≤ v.score := by
  induction vs generalizing s with
  | nil => rfl
  | cons v vs ih =>
      have reaches : Scale.reaches v.score (Scale.ofNat 1) = decide (1 ≤ v.score) := rfl
      rw [List.foldl_cons, ih, List.countP_cons]
      simp only [add, countIf, reaches]
      split <;> omega

theorem sum_foldl_add (vs : List (Verdict Rat)) (s : MetricSummary Rat) :
    (vs.foldl add s).sum = s.sum + (vs.map (·.score)).sum := by
  induction vs generalizing s with
  | nil => exact (add_zero s.sum).symm
  | cons v vs ih =>
      rw [List.foldl_cons, ih, List.map_cons, List.sum_cons]
      exact add_assoc s.sum v.score _

theorem describes_foldl_add (vs : List (Verdict Rat)) : (vs.foldl add zero).Describes vs := by
  have total : (vs.foldl add zero).total = vs.length :=
    (total_foldl_add vs zero).trans (Nat.zero_add _)
  have sum : (vs.foldl add zero).sum = (vs.map (·.score)).sum :=
    (sum_foldl_add vs zero).trans (zero_add _)
  refine ⟨total, (correct_foldl_add vs zero).trans (Nat.zero_add _),
    (perfect_foldl_add vs zero).trans (Nat.zero_add _),
    (referenceFailures_foldl_add vs zero).trans (Nat.zero_add _), ?_, rfl⟩
  rw [average, Scale.mean, total, sum, meanOf]
  simp only [List.length_eq_zero_iff, List.map_eq_nil_iff, List.length_map]
  rfl

theorem total_mul_average (vs : List (Verdict Rat)) :
    ((vs.foldl add zero).total : Rat) * (vs.foldl add zero).average = (vs.foldl add zero).sum := by
  have describes := describes_foldl_add vs
  have lengths := length_mul_meanOf (vs.map (·.score))
  rw [List.length_map] at lengths
  rw [describes.total, describes.average, lengths, sum_foldl_add]
  exact (zero_add _).symm

theorem add_add_comm (s : MetricSummary Rat) (v w : Verdict Rat) :
    (s.add v).add w = (s.add w).add v := by
  have twice (b c : Bool) (n : Nat) : countIf c (countIf b n) = countIf b (countIf c n) := by
    cases b <;> cases c <;> rfl
  have sums : s.sum + v.score + w.score = s.sum + w.score + v.score := add_right_comm _ _ _
  simp only [add, twice v.isCorrect, twice v.isReferenceFailure,
    twice (Scale.reaches v.score (Scale.ofNat 1))]
  exact congrArg (MetricSummary.mk · _ _ _ _) sums

instance : RightCommutative (add : MetricSummary Rat → Verdict Rat → MetricSummary Rat) :=
  ⟨add_add_comm⟩

end MetricSummary

section Exact

variable {records records' : List (Record Rat)} {names : List String} {e : Evaluation Rat}

namespace Summary

theorem metricsOf_tabulates (nodup : ∀ r ∈ records, (r.verdicts.map (·.1)).Nodup)
    (names : List String) :
    MetricSummary.Tabulates (metricsOf names records) names records := by
  have carried (name : String) :
      MetricSummary.counted name records ≠ [] ↔
        ∃ r ∈ records, r.isAnswered ∧ (Keyed.get? name r.verdicts).isSome := by
    simp [MetricSummary.counted, MetricSummary.verdictsOf, List.filterMap_eq_nil_iff,
      Option.isSome_iff_ne_none]
  refine ⟨fun name => ?_, fun name m mem => ?_⟩
  · rw [get?_metricsOf_eq nodup, ← carried]
    split <;> simp_all
  · rw [get?_metricsOf_eq nodup] at mem
    split at mem
    · obtain rfl := Option.some.inj mem
      exact MetricSummary.describes_foldl_add _
    · cases mem

/-- The order of the records does not matter to the summaries of the metrics. -/
theorem metricsOf_perm (nodup : ∀ r ∈ records, (r.verdicts.map (·.1)).Nodup)
    (perm : records.Perm records') (names : List String) :
    metricsOf names records = metricsOf names records' := by
  refine (sorted_metricsOf names records).ext (sorted_metricsOf names records') fun name => ?_
  have verdicts : (MetricSummary.counted name records).Perm
      (MetricSummary.counted name records') :=
    (perm.filter _).filterMap _
  have none : MetricSummary.counted name records = [] ↔
      MetricSummary.counted name records' = [] := by
    rw [← List.length_eq_zero_iff, verdicts.length_eq, List.length_eq_zero_iff]
  rw [get?_metricsOf_eq nodup, get?_metricsOf_eq fun r mem => nodup r (perm.mem_iff.2 mem),
    verdicts.foldl_eq]
  simp only [ne_eq, none]

/-- Nor does it matter to the summaries of the difficulties. -/
theorem difficultiesOf_perm (nodup : ∀ r ∈ records, (r.verdicts.map (·.1)).Nodup)
    (perm : records.Perm records') : difficultiesOf records = difficultiesOf records' := by
  refine (sorted_difficultiesOf records).ext (sorted_difficultiesOf records') fun difficulty => ?_
  have inside : (within difficulty records).Perm (within difficulty records') := perm.filter _
  have none : within difficulty records = [] ↔ within difficulty records' = [] := by
    rw [← List.length_eq_zero_iff, inside.length_eq, List.length_eq_zero_iff]
  have inner : ∀ r ∈ within difficulty records, (r.verdicts.map (·.1)).Nodup :=
    fun r mem => nodup r (List.mem_of_mem_filter mem)
  rw [get?_difficultiesOf, get?_difficultiesOf, DifficultySummary.foldl_add,
    DifficultySummary.foldl_add, inside.length_eq, inside.countP_eq,
    metricsOf_perm inner inside]
  simp only [none]

end Summary

namespace DifficultySummary

/-- What the row of a difficulty says of its records. -/
structure Describes (row : DifficultySummary Rat) (records : List (Record Rat)) : Prop where
  total : row.total = records.length
  answered : row.answered = records.countP (·.isAnswered)
  metrics : MetricSummary.Tabulates row.metrics [] records

/-- What the row has of a metric, which is nothing where it has no entry. -/
def metric (row : DifficultySummary Rat) (name : String) : MetricSummary Rat :=
  (Keyed.get? name row.metrics).getD .zero

theorem describes_foldl_add (nodup : ∀ r ∈ records, (r.verdicts.map (·.1)).Nodup) :
    (records.foldl add .zero).Describes records := by
  rw [foldl_add]
  exact ⟨rfl, rfl, Summary.metricsOf_tabulates nodup []⟩

/-- What a record adds to a metric within its difficulty: its verdict, if the question was
answered. -/
theorem metric_add {r : Record Rat} (nodup : (r.verdicts.map (·.1)).Nodup)
    (row : DifficultySummary Rat) (name : String) :
    (row.add r).metric name =
      (MetricSummary.counted name [r]).foldl MetricSummary.add
        (row.metric name) := by
  rw [add]
  cases answered : r.isAnswered with
  | false => simp [metric, MetricSummary.counted, MetricSummary.verdictsOf, answered]
  | true =>
      have entry := MetricSummary.get?_addAll nodup name row.metrics
      rw [if_pos rfl, metric, entry]
      cases verdict : Keyed.get? name r.verdicts <;>
        simp [MetricSummary.counted, MetricSummary.verdictsOf, answered, verdict, metric]

end DifficultySummary

namespace Summary

/-- What the verdicts of a metric come to, the rows of the difficulties add up to. -/
theorem sum_metric_difficultiesOf {M : Type} [AddCommMonoid M]
    (nodup : ∀ r ∈ records, (r.verdicts.map (·.1)).Nodup) (name : String)
    (measure : MetricSummary Rat → M) (part : Verdict Rat → M) (none : measure .zero = 0)
    (grows : ∀ v m, measure (m.add v) = measure m + part v) :
    ((difficultiesOf records).map fun p => measure (p.2.metric name)).sum =
      ((MetricSummary.counted name records).map part).sum := by
  have folds (vs : List (Verdict Rat)) (m : MetricSummary Rat) :
      measure (vs.foldl MetricSummary.add m) = measure m + (vs.map part).sum := by
    induction vs generalizing m with
    | nil => exact (add_zero _).symm
    | cons v vs ih => rw [List.foldl_cons, ih, grows, List.map_cons, List.sum_cons, add_assoc]
  refine (sum_difficultiesOf (fun row => measure (row.metric name))
    (fun r => ((MetricSummary.counted name [r]).map part).sum) none fun r mem row => by
      rw [DifficultySummary.metric_add (nodup r mem), folds]).trans ?_
  clear nodup
  induction records with
  | nil => rfl
  | cons r records ih =>
      rw [List.map_cons, List.sum_cons, ih, MetricSummary.counted_cons name r records,
        List.map_append, List.sum_append]

/-- The row of a difficulty has of a metric what its verdicts there sum up to. -/
theorem metric_of_mem_difficultiesOf (nodup : ∀ r ∈ records, (r.verdicts.map (·.1)).Nodup)
    {p : String × DifficultySummary Rat} (mem : p ∈ difficultiesOf records) (name : String) :
    p.2.metric name =
      (MetricSummary.counted name (within p.1 records)).foldl MetricSummary.add .zero := by
  have inner : ∀ r ∈ within p.1 records, (r.verdicts.map (·.1)).Nodup :=
    fun r mem => nodup r (List.mem_of_mem_filter mem)
  have row := (Keyed.get?_eq_some_iff (sorted_difficultiesOf records).nodup).2 mem
  have whole := getD_difficultiesOf records p.1
  rw [row, Option.getD_some, DifficultySummary.foldl_add] at whole
  rw [DifficultySummary.metric, whole, get?_metricsOf_eq inner]
  split
  · rfl
  next none =>
    rw [not_or, not_ne_iff] at none
    rw [none.2]
    rfl

/-- What the summary of a metric is broken down into by difficulty. -/
structure Breakdown (m : MetricSummary Rat) (rows : List (MetricSummary Rat)) : Prop where
  total : (rows.map (·.total)).sum = m.total
  correct : (rows.map (·.correct)).sum = m.correct
  /-- The mean of the averages, weighted by the totals. -/
  average : m.average =
    if m.total = 0 then 0 else (rows.map fun row => (row.total : Rat) * row.average).sum / m.total

/-- What a summary with these metrics asked for says of records. -/
structure Accounts (s : Summary Rat) (names : List String) (records : List (Record Rat)) :
    Prop where
  questions : s.questions = records.length
  metrics : MetricSummary.Tabulates s.metrics names records
  difficulties : ∀ difficulty, (Keyed.get? difficulty s.difficulties).isSome ↔
    ∃ r ∈ records, r.question.difficulty = difficulty
  rows : ∀ difficulty, ∀ row ∈ Keyed.get? difficulty s.difficulties,
    row.Describes (within difficulty records)
  total : (s.difficulties.map (·.2.total)).sum = s.questions
  parts : ∀ name, ∀ m ∈ Keyed.get? name s.metrics,
    Breakdown m (s.difficulties.map (·.2.metric name))

theorem breakdown (nodup : ∀ r ∈ records, (r.verdicts.map (·.1)).Nodup) (name : String) :
    Breakdown ((MetricSummary.counted name records).foldl MetricSummary.add .zero)
      ((difficultiesOf records).map (·.2.metric name)) := by
  have whole := MetricSummary.describes_foldl_add (MetricSummary.counted name records)
  refine ⟨?_, ?_, ?_⟩
  · rw [List.map_map, whole.total]
    refine (sum_metric_difficultiesOf nodup name (·.total) (fun _ => 1) rfl fun v m => rfl).trans ?_
    simp
  · rw [List.map_map, whole.correct]
    refine (sum_metric_difficultiesOf nodup name (·.correct)
      (fun v => if v.isCorrect then 1 else 0) rfl fun v m => ?_).trans ?_
    · cases correct : v.isCorrect <;> simp [MetricSummary.add, MetricSummary.countIf, correct]
    · exact sum_map_ite_eq_countP _ _
  · have weighted : ((difficultiesOf records).map fun p =>
          ((p.2.metric name).total : Rat) * (p.2.metric name).average) =
        (difficultiesOf records).map fun p => (p.2.metric name).sum := by
      refine List.map_congr_left fun p mem => ?_
      rw [metric_of_mem_difficultiesOf nodup mem name, MetricSummary.total_mul_average]
    have sums := sum_metric_difficultiesOf nodup name (·.sum) (·.score) rfl fun v m => rfl
    rw [List.map_map, Function.comp_def, weighted, sums, whole.average, whole.total, meanOf]
    simp only [List.map_eq_nil_iff, List.length_eq_zero_iff, List.length_map]

/-- Whatever was recorded, a summary in exact numbers accounts for its records by metric and by
difficulty. It is made in one pass, and the order of the records does not matter. -/
theorem ofEvaluation_accounts (e : Evaluation Rat) (names : List String)
    (once : ∀ r ∈ e.records, (r.verdicts.map (·.1)).Nodup) :
    Accounts (ofEvaluation e names) names e.records ∧
      Tables.ofRecords names e.records =
        ⟨(ofEvaluation e names).metrics, (ofEvaluation e names).difficulties⟩ ∧
      ∀ records, records.Perm e.records →
        ofEvaluation { e with records := records } names = ofEvaluation e names := by
  refine ⟨⟨rfl, metricsOf_tabulates once names, fun difficulty => ?_, fun difficulty row mem => ?_,
    sum_total_difficultiesOf e.records, fun name m mem => ?_⟩,
    Tables.ofRecords_eq names e.records, fun records perm => ?_⟩
  · have some : within difficulty e.records ≠ [] ↔
        ∃ r ∈ e.records, r.question.difficulty = difficulty := by
      simp [within, List.filter_eq_nil_iff]
    rw [ofEvaluation, get?_difficultiesOf, ← some]
    split <;> simp_all
  · rw [ofEvaluation, get?_difficultiesOf] at mem
    split at mem
    · cases mem
    · obtain rfl := Option.some.inj mem
      exact DifficultySummary.describes_foldl_add fun r mem => once r (List.mem_of_mem_filter mem)
  · rw [ofEvaluation, get?_metricsOf_eq once] at mem
    split at mem
    · obtain rfl := Option.some.inj mem
      exact breakdown once name
    · cases mem
  · have once' : ∀ r ∈ records, (r.verdicts.map (·.1)).Nodup :=
      fun r mem => once r (perm.mem_iff.1 mem)
    rw [ofEvaluation, ofEvaluation, metricsOf_perm once' perm, difficultiesOf_perm once' perm,
      perm.length_eq]

/-- A verdict of no metric in particular. -/
def plainVerdict (score : Rat) (isCorrect : Bool) (origin : Option Origin) : Verdict Rat :=
  ⟨"metric", score, isCorrect, .null, none, origin⟩

/-- The record of a question of which nothing is known but what is summed up. -/
def plainRecord (difficulty : String) (isAnswered : Bool) (verdicts : Keyed (Verdict Rat)) :
    Record Rat :=
  ⟨⟨"q", "", "SELECT 1".toList, difficulty, none⟩, [], none, isAnswered, 0, verdicts⟩

/-- Records with different metrics, of which one is of a question that was not answered. -/
def mixedRecords : List (Record Rat) :=
  [plainRecord "easy" true [("exact", plainVerdict 1 true none)],
    plainRecord "hard" true [("exact", plainVerdict 0 false (some .reference)),
      ("rows", plainVerdict (1 / 3) false none)],
    plainRecord "easy" false [("exact", plainVerdict 1 true none)],
    plainRecord "hard" true [("rows", plainVerdict (1 / 2) true none)]]

theorem ofEvaluation_accounts_mixed :
    let e : Evaluation Rat := ⟨mixedRecords, .zero, 2⟩
    (∀ r ∈ mixedRecords, (r.verdicts.map (·.1)).Nodup) ∧
      Accounts (ofEvaluation e ["exact", "clauses"]) ["exact", "clauses"] mixedRecords ∧
      Tables.ofRecords ["exact", "clauses"] mixedRecords =
        ⟨(ofEvaluation e ["exact", "clauses"]).metrics,
          (ofEvaluation e ["exact", "clauses"]).difficulties⟩ ∧
      ∀ records, records.Perm mixedRecords →
        ofEvaluation { e with records := records } ["exact", "clauses"] =
          ofEvaluation e ["exact", "clauses"] := by
  intro e
  have once : ∀ r ∈ mixedRecords, (r.verdicts.map (·.1)).Nodup := by decide
  exact ⟨once, ofEvaluation_accounts e ["exact", "clauses"] once⟩

end Summary

end Exact

end SqlGrader
