import SqlGrader.Proofs.Keyed
import SqlGrader.Score.Metric
/-!
# Verdicts of a suite

A metric may score what it likes, even what is no number, report any error or crash. The verdicts of
its suite have one entry for every name all the same, with a score from zero to one, and one of zero
where there is an error. The entry is that of the last metric of the name, and the others do not
show in it unless they change the state that the metric looks at.
-/

namespace SqlGrader

namespace Verdict

/-- The verdict is one of those that metrics make. -/
inductive IsMade : Verdict Float → Prop
  | scored (metric : String) (score : Float) (isCorrect : Bool) (details : List (String × Json)) :
      IsMade (scored metric score isCorrect details)
  | failed (metric : String) (origin : Origin) (message : String)
      (details : List (String × Json)) : IsMade (failed metric origin message details)

/-- The score is a number from zero to one. An error says whose fault it is and leaves nothing of
the score. -/
structure Contained (v : Verdict Float) : Prop where
  low : 0 ≤ v.score
  high : v.score ≤ 1
  blamed : v.error.isSome = v.origin.isSome
  void : v.error.isSome = true → v.score = 0 ∧ v.isCorrect = false

theorem zero_le_one : (0 : Float) ≤ 1 := by decide +kernel

theorem zero_le_zero : (0 : Float) ≤ 0 := by decide +kernel

theorem one_le_one : (1 : Float) ≤ 1 := by decide +kernel

/-- What is no number and what is infinite is clamped too. -/
theorem clamp_contained (x : Float) : 0 ≤ clamp x ∧ clamp x ≤ 1 := by
  rw [clamp]
  split
  next low =>
    split
    next high => exact ⟨of_decide_eq_true low, of_decide_eq_true high⟩
    next => exact ⟨zero_le_one, one_le_one⟩
  next => exact ⟨zero_le_zero, zero_le_one⟩

theorem failed_contained (metric : String) (origin : Origin) (message : String)
    (details : List (String × Json)) : (failed metric origin message details).Contained where
  low := zero_le_zero
  high := zero_le_one
  blamed := rfl
  void _ := ⟨rfl, rfl⟩

theorem IsMade.contained {v : Verdict Float} (made : v.IsMade) : v.Contained := by
  cases made with
  | scored metric score isCorrect details =>
      exact {
        low := (clamp_contained score).1
        high := (clamp_contained score).2
        blamed := rfl
        void := nofun }
  | failed metric origin message details => exact failed_contained metric origin message details

end Verdict

variable {σ : Type}

/-- Whatever comes of scoring, an error or a crash too, the verdict is contained. -/
theorem Metric.evaluate_contained {metric : Metric (StateM σ)} {c : Context (StateM σ)} {s : σ}
    (made : ∀ v, (metric.score c s).1 = .value v → v.IsMade) :
    (metric.evaluate c s).1.Contained := by
  change (Verdict.ofAttempt metric.name (metric.score c s).1).Contained
  cases attempt : (metric.score c s).1 with
  | value v => exact (made v attempt).contained
  | error e => exact Verdict.failed_contained _ _ _ _
  | crash message => exact Verdict.failed_contained _ _ _ _

namespace Suite

variable {suite front back : Suite (StateM σ)} {metric : Metric (StateM σ)} {c : Context (StateM σ)}
  {s : σ}

/-! ### One metric after the other -/

theorem verdicts_cons (metric : Metric (StateM σ)) (suite : Suite (StateM σ))
    (c : Context (StateM σ)) (s : σ) :
    verdicts (metric :: suite) c s =
      ((metric.name, (metric.evaluate c s).1) :: (verdicts suite c (metric.evaluate c s).2).1,
        (verdicts suite c (metric.evaluate c s).2).2) := by
  rw [verdicts, List.mapM_cons]
  rfl

theorem verdicts_append (front back : Suite (StateM σ)) (c : Context (StateM σ)) (s : σ) :
    verdicts (front ++ back) c s =
      ((verdicts front c s).1 ++ (verdicts back c (verdicts front c s).2).1,
        (verdicts back c (verdicts front c s).2).2) := by
  induction front generalizing s with
  | nil => rfl
  | cons metric front ih =>
      rw [List.cons_append, verdicts_cons, ih, verdicts_cons, List.cons_append]

theorem names_verdicts (suite : Suite (StateM σ)) (c : Context (StateM σ)) (s : σ) :
    (verdicts suite c s).1.map (·.1) = suite.names := by
  induction suite generalizing s with
  | nil => rfl
  | cons metric suite ih =>
      rw [verdicts_cons, List.map_cons, ih]
      rfl

/-- What every metric of a suite has from any state, every verdict of the suite has under its name.
-/
theorem forall_mem_verdicts (wanted : String → Verdict Float → Prop)
    (each : ∀ metric ∈ suite, ∀ s, wanted metric.name (metric.evaluate c s).1) (s : σ) :
    ∀ p ∈ (verdicts suite c s).1, wanted p.1 p.2 := by
  induction suite generalizing s with
  | nil => exact nofun
  | cons metric suite ih =>
      rw [verdicts_cons]
      intro p mem
      rcases List.mem_cons.1 mem with rfl | mem
      · exact each metric List.mem_cons_self s
      · exact ih (fun other mem => each other (List.mem_cons_of_mem _ mem)) _ p mem

/-- Metrics that leave a view of the state as it is leave it so together. -/
theorem view_verdicts {ν : Type} {view : σ → ν}
    (leaves : ∀ metric ∈ suite, ∀ s, view (metric.score c s).2 = view s) (s : σ) :
    view (verdicts suite c s).2 = view s := by
  induction suite generalizing s with
  | nil => rfl
  | cons metric suite ih =>
      rw [verdicts_cons]
      refine (ih (fun other mem => leaves other (List.mem_cons_of_mem _ mem)) _).trans ?_
      exact leaves metric List.mem_cons_self s

/-! ### The entries -/

/-- What the entries of a suite are, after it was applied from a state. -/
structure Accounts (suite : Suite (StateM σ)) (c : Context (StateM σ)) (s : σ)
    (entries : Keyed (Verdict Float)) : Prop where
  once : (entries.map (·.1)).Nodup
  named : ∀ name, name ∈ entries.map (·.1) ↔ name ∈ suite.names
  contained : ∀ p ∈ entries, p.2.Contained
  /-- The last metric of a name gives the entry. -/
  last : ∀ front metric back, suite = front ++ metric :: back → metric.name ∉ names back →
    Keyed.get? metric.name entries = some (metric.evaluate c (verdicts front c s).2).1
  /-- A metric that looks at a part of the state that no metric before it changes gives the entry
  that it gives by itself. -/
  alone : ∀ front metric back, suite = front ++ metric :: back → metric.name ∉ names back →
    ∀ (ν : Type) (view : σ → ν), (∀ other ∈ front, ∀ t, view (other.score c t).2 = view t) →
      (∀ t u, view t = view u → (metric.score c t).1 = (metric.score c u).1) →
        Keyed.get? metric.name entries = some (metric.evaluate c s).1

theorem get?_evaluate (last : metric.name ∉ names back) :
    Keyed.get? metric.name (evaluate (front ++ metric :: back) c s).1 =
      some (metric.evaluate c (verdicts front c s).2).1 := by
  change Keyed.get? _ (Keyed.ofList (verdicts (front ++ metric :: back) c s).1) = _
  rw [verdicts_append, verdicts_cons]
  exact Keyed.get?_ofList_append_cons _ (by rwa [names_verdicts])

/-- A suite of metrics that score, report errors or crash gives one contained verdict for every
name, and metrics do not meddle with each other. -/
theorem evaluate_accounts
    (made : ∀ metric ∈ suite, ∀ s v, (metric.score c s).1 = .value v → v.IsMade) (s : σ) :
    Accounts suite c s (suite.evaluate c s).1 := by
  have entries : (suite.evaluate c s).1 = Keyed.ofList (verdicts suite c s).1 := rfl
  refine {
    once := entries ▸ (Keyed.sorted_ofList _).nodup
    named := fun name => entries ▸ Keyed.mem_names_ofList.trans (by rw [names_verdicts])
    contained := fun p mem => ?_
    last := ?_
    alone := ?_ }
  · refine forall_mem_verdicts (fun _ v => v.Contained) (fun metric inside t => ?_) s p
      (Keyed.mem_of_mem_ofList mem)
    exact Metric.evaluate_contained (made metric inside t)
  · rintro front metric back rfl last
    exact get?_evaluate last
  · rintro front metric back rfl last ν view leaves looks
    rw [get?_evaluate last]
    have same := looks _ s (view_verdicts leaves s)
    exact congrArg (fun attempt => some (Verdict.ofAttempt metric.name attempt)) same

/-- Two metrics of one name, one of which scores what is no number and one of which scores too much,
and a metric that crashes without a text. They count how often they are asked. -/
def unruly : Suite (StateM Nat) :=
  [⟨"fuzzy", fun _ n => (.value (.scored "fuzzy" (0 / 0) true []), n + 1)⟩,
    ⟨"crashing", fun _ n => (.crash none, n + 1)⟩,
    ⟨"fuzzy", fun _ n => (.value (.scored "excess" (1 / 0) true []), n + 1)⟩]

theorem evaluate_accounts_unruly :
    (∀ metric ∈ unruly, ∀ s v,
        (metric.score ⟨"q", [], [], none⟩ s).1 = .value v → v.IsMade) ∧
      Accounts unruly ⟨"q", [], [], none⟩ 0 (unruly.evaluate ⟨"q", [], [], none⟩ 0).1 ∧
      (unruly.evaluate ⟨"q", [], [], none⟩ 0).1.map (fun p => (p.1, p.2.score.toBits, p.2.error)) =
        [("crashing", (0 : Float).toBits, some "metric panicked: unknown panic payload"),
          ("fuzzy", (1 : Float).toBits, none)] := by
  have made : ∀ metric ∈ unruly, ∀ s v,
      (metric.score ⟨"q", [], [], none⟩ s).1 = .value v → v.IsMade := by
    intro metric mem s v scored
    simp only [unruly, List.mem_cons, List.not_mem_nil, or_false] at mem
    rcases mem with rfl | rfl | rfl <;> cases scored
    · exact .scored _ _ _ _
    · exact .scored _ _ _ _
  exact ⟨made, evaluate_accounts made 0, by decide +kernel⟩

end Suite

end SqlGrader
