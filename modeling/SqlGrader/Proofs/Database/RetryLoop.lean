import Mathlib.Data.ENat.Lattice
import SqlGrader.Proofs.Database.Retries
import SqlGrader.Proofs.Score.ExecutionMatch
/-!
# How often a statement is run

A statement is run in a loop without a bound of its own: each round asks the source once, and the
loop goes on as long as the connection is lost and a retry is left. Whatever a source answers, the
loop stops after one round more than there are retries, and these are as many as the limit allows
or as there are lost connections at the start of the answers, whichever is less.
-/

namespace SqlGrader

namespace Handle

variable {σ : Type} {h : Handle (StateM σ)} {sql : Text} {s : σ} {k n limit : Nat}
  {answers : Nat → Outcome}

/-! ### The loop -/

/-- What a round of the loop makes of an answer: the outcome of the statement, or the number of
retries that have begun with the next round. -/
def afterRound (limit attempt : Nat) : Outcome → Outcome ⊕ Nat
  | .error f =>
    if f.kind.isTransient && attempt < limit then .inr (attempt + 1) else .inl (.error f)
  | .ok rows => .inl (.ok rows)

/-- A round of the loop asks the source once. -/
def round (h : Handle (StateM σ)) (sql : Text) (limit attempt : Nat) : StateM σ (Outcome ⊕ Nat) :=
  afterRound limit attempt <$> h.execute sql

/-- How the loop runs from a number of retries and a state: after so many rounds it has stopped with
an outcome and a state. -/
inductive Loops (h : Handle (StateM σ)) (sql : Text) (limit : Nat) :
    (attempt : Nat) → σ → (rounds : Nat) → Outcome → σ → Prop
  | stops {attempt : Nat} {s after : σ} {outcome : Outcome}
      (last : (h.round sql limit attempt).run s = (.inl outcome, after)) :
      Loops h sql limit attempt s 1 outcome after
  | goesOn {attempt next rounds : Nat} {s between after : σ} {outcome : Outcome}
      (first : (h.round sql limit attempt).run s = (.inr next, between))
      (rest : Loops h sql limit next between rounds outcome after) :
      Loops h sql limit attempt s (rounds + 1) outcome after

/-- The state after a statement has been run so many times. -/
def stateAfter (h : Handle (StateM σ)) (sql : Text) (s : σ) : Nat → σ
  | 0 => s
  | n + 1 => stateAfter h sql ((h.execute sql).run s).2 n

/-- What comes of a statement that has been run so many times before. -/
def answer (h : Handle (StateM σ)) (sql : Text) (s : σ) (n : Nat) : Outcome :=
  ((h.execute sql).run (h.stateAfter sql s n)).1

/-- The calls of a statement that is run so many times. -/
def callsOf (h : Handle (StateM σ)) (sql : Text) (s : σ) (n : Nat) : List Call :=
  (List.range n).map fun i => ⟨sql, h.answer sql s i⟩

/-- The number of lost connections before anything else is answered. -/
noncomputable def leadingLosses (answers : Nat → Outcome) : ℕ∞ :=
  ⨅ (n : Nat) (_ : ¬ IsLost (answers n)), (n : ℕ∞)

/-- What running a statement again `k` times means: no round is left out, and none too many. -/
structure Reruns (h : Handle (StateM σ)) (sql : Text) (limit : Nat) (s : σ) (k : Nat) : Prop where
  /-- The retries are as many as allowed, or as there are lost connections in front. -/
  count : (k : ℕ∞) = min (limit : ℕ∞) (leadingLosses (h.answer sql s))
  /-- Only a lost connection is followed by a retry. -/
  lost (n : Nat) (before : n < k) : IsLost (h.answer sql s n)
  /-- The loop stops after one round more, with the last answer. -/
  loops : h.Loops sql limit 0 s (k + 1) (h.answer sql s k) (h.stateAfter sql s (k + 1))
  run : (h.executeRetrying sql limit).run s = (h.answer sql s k, h.stateAfter sql s (k + 1))
  /-- All calls are of the statement. -/
  recorded (before : List Call) :
    (h.recorded.executeRetrying sql limit).run (s, before) =
      (h.answer sql s k, h.stateAfter sql s (k + 1), before ++ h.callsOf sql s (k + 1))

/-! ### One round -/

theorem not_isLost_ok (rows : List Row) : ¬ IsLost (.ok rows) := by
  rintro ⟨f, same, -⟩
  cases same

theorem isLost_error {f : Failure} : IsLost (.error f) ↔ f.kind.isTransient := by
  refine ⟨?_, fun transient => ⟨f, rfl, transient⟩⟩
  rintro ⟨g, same, transient⟩
  rwa [Except.error.inj same]

theorem run_round (h : Handle (StateM σ)) (sql : Text) (limit attempt : Nat) (s : σ) :
    (h.round sql limit attempt).run s =
      (afterRound limit attempt (h.answer sql s 0), h.stateAfter sql s 1) := rfl

/-- The loop goes on after a lost connection as long as a retry is left. -/
theorem afterRound_of_lost {outcome : Outcome} {attempt : Nat} (lost : IsLost outcome)
    (left : attempt < limit) : afterRound limit attempt outcome = .inr (attempt + 1) := by
  obtain ⟨f, rfl, transient⟩ := lost
  simp [afterRound, transient, left]

/-- The loop stops with any other answer, and when no retry is left. -/
theorem afterRound_of_settled {outcome : Outcome} {attempt : Nat}
    (settled : ¬ IsLost outcome ∨ limit ≤ attempt) :
    afterRound limit attempt outcome = .inl outcome := by
  cases outcome with
  | ok rows => rfl
  | error f =>
      refine if_neg fun goesOn => ?_
      rw [Bool.and_eq_true, decide_eq_true_eq] at goesOn
      exact settled.elim (fun other => other (isLost_error.mpr goesOn.1)) fun full => by omega

theorem run_executeRetrying_of_lost (lost : IsLost (h.answer sql s 0)) (retries : Nat) :
    (h.executeRetrying sql (retries + 1)).run s =
      (h.executeRetrying sql retries).run (h.stateAfter sql s 1) := by
  rw [answer, stateAfter] at lost
  rw [run_executeRetrying_succ, stateAfter, stateAfter]
  generalize (h.execute sql).run s = first at lost
  obtain ⟨f | rows, after⟩ := first
  · simp only [isLost_error.mp lost, if_true]
  · exact absurd lost (not_isLost_ok rows)

theorem run_executeRetrying_of_settled {retries : Nat}
    (settled : ¬ IsLost (h.answer sql s 0) ∨ retries = 0) :
    (h.executeRetrying sql retries).run s = (h.answer sql s 0, h.stateAfter sql s 1) := by
  cases retries with
  | zero => rfl
  | succ n =>
      have other := settled.resolve_right (Nat.succ_ne_zero n)
      rw [answer, stateAfter] at other ⊢
      rw [run_executeRetrying_succ, stateAfter, stateAfter]
      generalize (h.execute sql).run s = first at other
      obtain ⟨f | rows, after⟩ := first
      · have stays : f.kind.isTransient = false :=
          Bool.eq_false_iff.mpr fun lost => other (isLost_error.mpr lost)
        simp only [stays, Bool.false_eq_true, if_false]
      · rfl

/-! ### All rounds -/

/-- From some number of retries on, the loop runs until the first answer that is not a lost
connection, or until no retry is left. -/
theorem exists_loops (h : Handle (StateM σ)) (sql : Text) (left attempt : Nat) (s : σ) :
    ∃ k, k ≤ left ∧ (∀ n < k, IsLost (h.answer sql s n)) ∧
      (k < left → ¬ IsLost (h.answer sql s k)) ∧
      h.Loops sql (attempt + left) attempt s (k + 1) (h.answer sql s k)
        (h.stateAfter sql s (k + 1)) ∧
      (h.executeRetrying sql left).run s = (h.answer sql s k, h.stateAfter sql s (k + 1)) := by
  induction left generalizing attempt s with
  | zero =>
      exact ⟨0, Nat.le_refl 0, by simp, by simp,
        .stops (by rw [run_round, afterRound_of_settled (.inr (Nat.add_zero attempt).le)]),
        run_executeRetrying_of_settled (.inr rfl)⟩
  | succ left ih =>
      by_cases lost : IsLost (h.answer sql s 0)
      · obtain ⟨k, within, before, settled, loops, run⟩ := ih (attempt + 1) (h.stateAfter sql s 1)
        rw [Nat.add_right_comm, Nat.add_assoc] at loops
        refine ⟨k + 1, Nat.succ_le_succ within, ?_,
          fun less => settled (Nat.lt_of_succ_lt_succ less),
          .goesOn (by rw [run_round, afterRound_of_lost lost (by omega)]) loops,
          (run_executeRetrying_of_lost lost left).trans run⟩
        rintro (_ | n) less
        · exact lost
        · exact before n (Nat.lt_of_succ_lt_succ less)
      · exact ⟨0, Nat.zero_le _, by simp, fun _ => lost,
          .stops (by rw [run_round, afterRound_of_settled (.inl lost)]),
          run_executeRetrying_of_settled (.inl lost)⟩

/-- The lesser of the limit and the number of lost connections in front: all answers before it are
lost connections, and the next one is none or the limit is reached. -/
theorem coe_eq_min_iff :
    (k : ℕ∞) = min (limit : ℕ∞) (leadingLosses answers) ↔
      k ≤ limit ∧ (∀ n < k, IsLost (answers n)) ∧ (k < limit → ¬ IsLost (answers k)) := by
  have reaches (m : Nat) : (m : ℕ∞) ≤ leadingLosses answers ↔ ∀ n < m, IsLost (answers n) := by
    simp only [leadingLosses, le_iInf_iff, Nat.cast_le]
    exact forall_congr' fun n => by rw [← not_lt, not_imp_not]
  constructor
  · intro same
    obtain ⟨within, lost⟩ := le_min_iff.mp same.le
    refine ⟨Nat.cast_le.mp within, (reaches k).mp lost, fun less more => ?_⟩
    -- One lost connection more would be counted too.
    have next : ((k + 1 : Nat) : ℕ∞) ≤ min (limit : ℕ∞) (leadingLosses answers) := by
      refine le_min (Nat.cast_le.mpr less) ((reaches (k + 1)).mpr fun n before => ?_)
      rcases Nat.lt_succ_iff_lt_or_eq.mp before with before | rfl
      · exact (reaches k).mp lost n before
      · exact more
    rw [← same] at next
    exact absurd (Nat.cast_le.mp next) (Nat.not_succ_le_self k)
  · rintro ⟨within, lost, settled⟩
    refine le_antisymm (le_min (Nat.cast_le.mpr within) ((reaches k).mpr lost)) ?_
    rcases Nat.lt_or_eq_of_le within with less | rfl
    · exact min_le_of_right_le (iInf₂_le k (settled less))
    · exact min_le_left _ _

theorem stateAfter_recorded (h : Handle (StateM σ)) (sql : Text) (s : σ) (before : List Call)
    (n : Nat) :
    h.recorded.stateAfter sql (s, before) n =
      (h.stateAfter sql s n, before ++ h.callsOf sql s n) := by
  induction n generalizing s before with
  | zero => simp [stateAfter, callsOf]
  | succ n ih =>
      have first : ((h.recorded.execute sql).run (s, before)).2 =
          (h.stateAfter sql s 1, before ++ [⟨sql, h.answer sql s 0⟩]) := rfl
      rw [stateAfter, first, ih, callsOf, callsOf, List.range_succ_eq_map, List.append_assoc,
        List.map_cons, List.map_map]
      rfl

theorem answer_recorded (h : Handle (StateM σ)) (sql : Text) (s : σ) (before : List Call)
    (n : Nat) : h.recorded.answer sql (s, before) n = h.answer sql s n := by
  rw [answer, stateAfter_recorded]
  rfl

/-- Every statement is run again as often as it has to be. -/
theorem exists_reruns (h : Handle (StateM σ)) (sql : Text) (limit : Nat) (s : σ) :
    ∃ k, h.Reruns sql limit s k := by
  obtain ⟨k, within, lost, settled, loops, run⟩ := h.exists_loops sql limit 0 s
  rw [Nat.zero_add] at loops
  refine ⟨k, coe_eq_min_iff.mpr ⟨within, lost, settled⟩, lost, loops, run, fun before => ?_⟩
  obtain ⟨k', within', lost', settled', -, run'⟩ := h.recorded.exists_loops sql limit 0 (s, before)
  simp only [answer_recorded] at lost' settled'
  obtain rfl : k' = k := Nat.cast_injective (R := ℕ∞)
    ((coe_eq_min_iff.mpr ⟨within', lost', settled'⟩).trans
      (coe_eq_min_iff.mpr ⟨within, lost, settled⟩).symm)
  rw [run', answer_recorded, stateAfter_recorded]

end Handle

namespace ExecutionMatch

/-- A blank statement keeps an example from being run at all. -/
theorem run_evaluate_of_blank {σ : Type} (o : Options) (h : Handle (StateM σ)) (id : String)
    (reference predicted : Text) (s : σ)
    (blank : Text.isAllBlank reference || Text.isAllBlank predicted) :
    ∃ e, ((metric o).evaluate ⟨id, reference, predicted, some h⟩).run s =
      (Verdict.ofAttempt metricName (.error e), s) := by
  by_cases left : Text.isAllBlank reference = true
  · exact ⟨.emptyReference, by simp only [Metric.evaluate, metric, Metric.statements, left]; rfl⟩
  · have right : Text.isAllBlank predicted = true := by simpa [left] using blank
    rw [Bool.not_eq_true] at left
    exact ⟨.emptyPrediction,
      by simp only [Metric.evaluate, metric, Metric.statements, left, right]; rfl⟩

/-- A statement is run once and then once more for each lost connection in front of the answers, as
long as the limit allows. To score an example runs the reference so, and then the prediction, with
the answers that are left; an example with a blank statement is not run. -/
theorem evaluate_reruns {σ : Type} (h : Handle (StateM σ)) (s : σ) :
    (∀ sql limit, ∃ k, h.Reruns sql limit s k) ∧
      ∀ (o : Options) (id : String) (reference predicted : Text),
        (Text.isAllBlank reference = false → Text.isAllBlank predicted = false →
          ∃ k₁ k₂,
            let between := h.stateAfter reference s (k₁ + 1)
            h.Reruns reference o.retries s k₁ ∧ h.Reruns predicted o.retries between k₂ ∧
              ((metric o).evaluate ⟨id, reference, predicted, some h.recorded⟩).run (s, []) =
                (verdictOn o (h.answer reference s k₁) (h.answer predicted between k₂),
                  h.stateAfter predicted between (k₂ + 1),
                  h.callsOf reference s (k₁ + 1) ++ h.callsOf predicted between (k₂ + 1))) ∧
          (Text.isAllBlank reference || Text.isAllBlank predicted →
            ∃ e, ((metric o).evaluate ⟨id, reference, predicted, some h.recorded⟩).run (s, []) =
              (Verdict.ofAttempt metricName (.error e), s, [])) := by
  refine ⟨fun sql limit => h.exists_reruns sql limit s, fun o id reference predicted =>
    ⟨fun left right => ?_, run_evaluate_of_blank o h.recorded id reference predicted (s, [])⟩⟩
  obtain ⟨k₁, first⟩ := h.exists_reruns reference o.retries s
  obtain ⟨k₂, second⟩ := h.exists_reruns predicted o.retries (h.stateAfter reference s (k₁ + 1))
  refine ⟨k₁, k₂, first, second, ?_⟩
  rw [run_evaluate o h.recorded id reference predicted (s, []) left right]
  simp only [first.recorded, second.recorded, List.nil_append]

/-- A script in which both statements lose the connection, the prediction more often than it may be
run again. -/
theorem evaluate_reruns_flaky :
    Text.isAllBlank "SELECT 1".toList = false ∧ Text.isAllBlank "SELECT 2".toList = false ∧
      ∃ k₁ k₂,
        let h := Handle.script "s"
        let lost : Outcome := .error (.ofKind .connection "lost")
        let s := Source.ofScript [lost, .ok [[.int 1]], lost, lost, lost, .ok [[.int 1]]]
        let between := h.stateAfter "SELECT 1".toList s (k₁ + 1)
        h.Reruns "SELECT 1".toList 2 s k₁ ∧ h.Reruns "SELECT 2".toList 2 between k₂ ∧
          ((metric ⟨10, 5, 2⟩).evaluate
              ⟨"q", "SELECT 1".toList, "SELECT 2".toList, some h.recorded⟩).run (s, []) =
            (verdictOn ⟨10, 5, 2⟩ (h.answer "SELECT 1".toList s k₁)
                (h.answer "SELECT 2".toList between k₂),
              h.stateAfter "SELECT 2".toList between (k₂ + 1),
              h.callsOf "SELECT 1".toList s (k₁ + 1) ++
                h.callsOf "SELECT 2".toList between (k₂ + 1)) :=
  ⟨by decide, by decide,
    (evaluate_reruns (Handle.script "s")
      (.ofScript [.error (.ofKind .connection "lost"), .ok [[.int 1]],
        .error (.ofKind .connection "lost"), .error (.ofKind .connection "lost"),
        .error (.ofKind .connection "lost"), .ok [[.int 1]]])).2
      ⟨10, 5, 2⟩ "q" "SELECT 1".toList "SELECT 2".toList |>.1 (by decide) (by decide)⟩

end ExecutionMatch

end SqlGrader
