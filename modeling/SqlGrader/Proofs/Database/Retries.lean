import SqlGrader.Database.Handle
/-!
# What running a statement asks of its source

A source that acts on a state of its own can be recorded: each call is kept with
its outcome, in order, and nothing else changes. A statement with a limit on
retries asks its source once more for each failure of the connection, as long as
the limit allows, and the last answer is the outcome.
-/

namespace SqlGrader

/-- A statement that was given to a source, and what came of it. -/
structure Call where
  sql : Text
  outcome : Outcome

namespace Handle

variable {σ : Type}

/-- The same source with a record of its calls beside its state. -/
def recorded (h : Handle (StateM σ)) : Handle (StateM (σ × List Call)) where
  backend := h.backend
  execute sql := fun s =>
    let (outcome, after) := (h.execute sql).run s.1
    (outcome, after, s.2 ++ [⟨sql, outcome⟩])

/-- Whether the connection failed, so that the statement may be run again. -/
def IsLost (outcome : Outcome) : Prop := ∃ f, outcome = .error f ∧ f.kind.isTransient

/-- The calls that running a statement makes: those before the last one lost the
connection, there are no more of them than retries, and the last one may lose it
only if no retry is left. -/
def Tried (sql : Text) (retries : Nat) (calls : List Call) (final : Outcome) : Prop :=
  ∃ lost : List Outcome, calls = (lost ++ [final]).map (Call.mk sql) ∧
    (∀ outcome ∈ lost, IsLost outcome) ∧ lost.length ≤ retries ∧
      (IsLost final → lost.length = retries)

namespace Tried

variable {sql : Text} {retries : Nat} {calls : List Call} {outcome final : Outcome}

theorem last (sql : Text) (outcome : Outcome) : Tried sql 0 [⟨sql, outcome⟩] outcome :=
  ⟨[], rfl, by simp, Nat.le_refl 0, fun _ => rfl⟩

theorem settled (sql : Text) (retries : Nat) (stays : ¬ IsLost outcome) :
    Tried sql retries [⟨sql, outcome⟩] outcome :=
  ⟨[], rfl, by simp, Nat.zero_le retries, fun lost => absurd lost stays⟩

theorem again (lost : IsLost outcome) (rest : Tried sql retries calls final) :
    Tried sql (retries + 1) (⟨sql, outcome⟩ :: calls) final := by
  obtain ⟨before, rfl, all, within, full⟩ := rest
  refine ⟨outcome :: before, rfl, ?_, ?_, ?_⟩
  · intro other mem
    rcases List.mem_cons.mp mem with rfl | mem
    · exact lost
    · exact all other mem
  · rw [List.length_cons]
    omega
  · intro final
    rw [List.length_cons, full final]

end Tried

/-- One try, and the next one if the connection is lost. -/
theorem run_executeRetrying_succ (h : Handle (StateM σ)) (sql : Text) (retries : Nat) (s : σ) :
    (h.executeRetrying sql (retries + 1)).run s =
      match (h.execute sql).run s with
      | (.error f, after) =>
        if f.kind.isTransient then (h.executeRetrying sql retries).run after else (.error f, after)
      | (.ok rows, after) => (.ok rows, after) := by
  rw [executeRetrying, StateT.run_bind]
  generalize (h.execute sql).run s = first
  obtain ⟨f | rows, after⟩ := first
  · show StateT.run (if f.kind.isTransient then h.executeRetrying sql retries
      else pure (.error f)) after = _
    cases transient : f.kind.isTransient with
    | true => simp only [transient, if_true]
    | false => simp only [transient, Bool.false_eq_true, if_false]; rfl
  · rfl

/-- Running a statement on a recorded source has the outcome and the effect that
it has without the record, and the record grows by the calls of the statement. -/
theorem executeRetrying_recorded (h : Handle (StateM σ)) (sql : Text) (retries : Nat) (s : σ)
    (before : List Call) :
    ∃ calls, (h.recorded.executeRetrying sql retries).run (s, before) =
        (((h.executeRetrying sql retries).run s).1,
          ((h.executeRetrying sql retries).run s).2, before ++ calls) ∧
      Tried sql retries calls ((h.executeRetrying sql retries).run s).1 := by
  induction retries generalizing s before with
  | zero => exact ⟨_, rfl, Tried.last sql _⟩
  | succ n ih =>
      have recorded : (h.recorded.execute sql).run (s, before) =
          (((h.execute sql).run s).1, ((h.execute sql).run s).2,
            before ++ [⟨sql, ((h.execute sql).run s).1⟩]) := rfl
      rw [run_executeRetrying_succ, run_executeRetrying_succ, recorded]
      generalize (h.execute sql).run s = first
      obtain ⟨f | rows, after⟩ := first
      · cases transient : f.kind.isTransient with
        | true =>
            obtain ⟨calls, same, tried⟩ := ih after (before ++ [⟨sql, .error f⟩])
            refine ⟨⟨sql, .error f⟩ :: calls, ?_, ?_⟩
            · simp only [transient, if_true, same, List.append_assoc, List.singleton_append]
            · simp only [transient, if_true]
              exact tried.again ⟨f, rfl, transient⟩
        | false =>
            refine ⟨[⟨sql, .error f⟩], ?_, ?_⟩
            · simp only [transient, Bool.false_eq_true, if_false]
            · simp only [transient, Bool.false_eq_true, if_false]
              apply Tried.settled
              rintro ⟨g, same, lost⟩
              cases same
              rw [transient] at lost
              cases lost
      · refine ⟨[⟨sql, .ok rows⟩], rfl, Tried.settled sql _ ?_⟩
        rintro ⟨f, same, -⟩
        cases same

end Handle

end SqlGrader
