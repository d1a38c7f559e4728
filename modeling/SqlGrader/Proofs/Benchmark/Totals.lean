import SqlGrader.Benchmark.Summary
import SqlGrader.Proofs.Keyed
/-!
# What records sum up to

The summary of a metric comes of the verdicts that answered questions have under its name, in their
order. The totals of the difficulties sum up to the totals of all records.
-/

namespace SqlGrader

variable {α : Type} [Scale α]

namespace MetricSummary

variable {r : Record α} {records : List (Record α)}

/-- The verdicts of a metric in the order of the records. -/
def verdictsOf (name : String) (records : List (Record α)) : List (Verdict α) :=
  records.filterMap fun r => Keyed.get? name r.verdicts

theorem get?_addAll (nodup : (r.verdicts.map (·.1)).Nodup) (name : String)
    (summaries : Keyed (MetricSummary α)) :
    Keyed.get? name (addAll summaries r) =
      ((Keyed.get? name r.verdicts).map fun v =>
        ((Keyed.get? name summaries).getD zero).add v).or (Keyed.get? name summaries) :=
  Keyed.get?_foldl_update nodup name zero (fun v s => s.add v) summaries

/-- A summary that is there before the records adds up their verdicts. -/
theorem get?_foldl_addAll (nodup : ∀ r ∈ records, (r.verdicts.map (·.1)).Nodup) {name : String}
    {summaries : Keyed (MetricSummary α)} {s : MetricSummary α}
    (found : Keyed.get? name summaries = some s) :
    Keyed.get? name (records.foldl addAll summaries) =
      some ((verdictsOf name records).foldl add s) := by
  induction records generalizing summaries s with
  | nil => exact found
  | cons r records ih =>
      obtain ⟨here, rest⟩ := List.forall_mem_cons.1 nodup
      have first := get?_addAll here name summaries
      rw [List.foldl_cons, verdictsOf, List.filterMap_cons]
      cases verdict : Keyed.get? name r.verdicts with
      | none =>
          rw [verdict, found] at first
          exact ih rest first
      | some v =>
          rw [verdict, found] at first
          exact ih rest first

theorem total_foldl_add (vs : List (Verdict α)) (s : MetricSummary α) :
    (vs.foldl add s).total = s.total + vs.length := by
  induction vs generalizing s with
  | nil => rfl
  | cons v vs ih =>
      rw [List.foldl_cons, ih, List.length_cons]
      simp only [add]
      omega

theorem referenceFailures_foldl_add (vs : List (Verdict α)) (s : MetricSummary α) :
    (vs.foldl add s).referenceFailures =
      s.referenceFailures + vs.countP (·.isReferenceFailure) := by
  induction vs generalizing s with
  | nil => rfl
  | cons v vs ih =>
      rw [List.foldl_cons, ih, List.countP_cons]
      simp only [add, countIf]
      split <;> omega

end MetricSummary

namespace Summary

theorem sum_map_ite_eq_countP {β : Type} (counts : β → Bool) (xs : List β) :
    (xs.map fun x => if counts x then 1 else 0).sum = xs.countP counts := by
  induction xs with
  | nil => rfl
  | cons x xs ih => rw [List.map_cons, List.sum_cons, List.countP_cons, ih, Nat.add_comm]

variable {records : List (Record α)}

theorem get?_noMetrics {names : List String} {name : String} (mem : name ∈ names) :
    Keyed.get? name (noMetrics names : Keyed (MetricSummary α)) = some .zero := by
  cases found : Keyed.get? name (noMetrics names : Keyed (MetricSummary α)) with
  | none =>
      refine absurd (Keyed.mem_names_ofList.2 ?_) (Keyed.get?_eq_none_iff.1 found)
      simpa using mem
  | some s =>
      obtain ⟨other, -, same⟩ := List.mem_map.1 (Keyed.mem_of_mem_ofList (Keyed.mem_of_get? found))
      rw [(Prod.mk.inj same).2]

/-- A metric that was asked for sums up its verdicts on the answered questions. -/
theorem get?_metricsOf (nodup : ∀ r ∈ records, (r.verdicts.map (·.1)).Nodup) {names : List String}
    {name : String} (mem : name ∈ names) :
    Keyed.get? name (metricsOf names records) =
      some ((MetricSummary.verdictsOf name (records.filter (·.isAnswered))).foldl
        MetricSummary.add .zero) :=
  MetricSummary.get?_foldl_addAll (fun r mem => nodup r (List.mem_of_mem_filter mem))
    (get?_noMetrics mem)

theorem difficultiesOf_append_singleton (records : List (Record α)) (r : Record α) :
    difficultiesOf (records ++ [r]) =
      Keyed.update r.question.difficulty .zero (·.add r) (difficultiesOf records) := by
  rw [difficultiesOf, List.foldl_append]
  rfl

theorem sorted_difficultiesOf (records : List (Record α)) :
    Keyed.Sorted (difficultiesOf records) := by
  induction records using List.reverseRecOn with
  | nil => exact .nil
  | append_singleton records r ih =>
      rw [difficultiesOf_append_singleton]
      exact ih.update

/-- What every record adds its part to, the difficulties sum up. -/
theorem sum_difficultiesOf {M : Type} [AddCommMonoid M] (measure : DifficultySummary α → M)
    (part : Record α → M) (none : measure .zero = 0) {records : List (Record α)}
    (grows : ∀ r ∈ records, ∀ s, measure (s.add r) = measure s + part r) :
    ((difficultiesOf records).map (measure ·.2)).sum = (records.map part).sum := by
  induction records using List.reverseRecOn with
  | nil => rfl
  | append_singleton records r ih =>
      rw [difficultiesOf_append_singleton, List.map_append, List.sum_append, List.map_singleton,
        List.sum_singleton, ← ih fun r mem => grows r (List.mem_append_left _ mem)]
      exact Keyed.sum_update (sorted_difficultiesOf records) none (grows r (by simp))

theorem sum_total_difficultiesOf (records : List (Record α)) :
    ((difficultiesOf records).map (·.2.total)).sum = records.length := by
  refine (sum_difficultiesOf (·.total) (fun _ => 1) rfl
    fun r _ s => by rw [DifficultySummary.add]; split <;> rfl).trans ?_
  simp

theorem sum_answered_difficultiesOf (records : List (Record α)) :
    ((difficultiesOf records).map (·.2.answered)).sum = records.countP (·.isAnswered) := by
  refine (sum_difficultiesOf (·.answered) (fun r => if r.isAnswered then 1 else 0) rfl
    fun r _ s => by rw [DifficultySummary.add]; split <;> rfl).trans ?_
  exact sum_map_ite_eq_countP _ records

end Summary

end SqlGrader
