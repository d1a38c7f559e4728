import SqlGrader.Benchmark.Pipeline
import SqlGrader.Proofs.Benchmark.Schedule
import SqlGrader.Proofs.Benchmark.Written
import SqlGrader.Proofs.Keyed
/-!
# Replayed predictions

What is replayed for the questions of a dataset, said by what is written. Of the entries of a file
the last one under the identifier of a question counts, and a null counts as the empty statement;
without an entry the prediction counts that comes with the question, and without that one too the
record says that there is none. Entries under other identifiers bear on nothing.
-/

namespace SqlGrader

namespace Predictions

variable {questions : List Question} {entries : List (String × Option Text)} {q : Question}

/-- The statement for a question: that of the last entry under its identifier, or the one that comes
with the question. -/
def replayed (entries : List (String × Option Text)) (q : Question) : Option Text :=
  match entries.reverse.lookup q.id with
  | some statement => some (statement.getD [])
  | none => q.prediction

/-- The entries under the identifiers of questions. -/
def concerning (questions : List Question) (entries : List (String × Option Text)) :
    List (String × Option Text) :=
  entries.filter fun entry => questions.any (·.id == entry.1)

/-- Supplies the predictions of a file with these entries, before those of the questions. -/
def replaying {m : Type → Type} [Monad m] (questions : List Question)
    (entries : List (String × Option Text)) : Predictor m :=
  ((ofQuestions questions).merge (.ofList (entries.map recorded))).predictor

/-! ### What stands under an identifier -/

theorem exists_of_predicted {id : String}
    (named : id ∈ (questions.filterMap fun q => q.prediction.map fun t => (q.id, t)).map (·.1)) :
    ∃ q ∈ questions, q.id = id ∧ q.prediction.isSome := by
  obtain ⟨entry, listed, rfl⟩ := List.mem_map.1 named
  obtain ⟨q, mem, comes⟩ := List.mem_filterMap.1 listed
  obtain ⟨t, given, rfl⟩ := Option.map_eq_some_iff.1 comes
  exact ⟨q, mem, rfl, by rw [given]; rfl⟩

theorem get?_ofQuestions (distinct : (questions.map (·.id)).Nodup) (mem : q ∈ questions) :
    Keyed.get? q.id (ofQuestions questions) = q.prediction := by
  cases found : q.prediction with
  | none =>
      rw [Keyed.get?_eq_none_iff, ofQuestions, Keyed.mem_names_ofList]
      intro named
      obtain ⟨r, among, same, some⟩ := exists_of_predicted named
      obtain rfl : r = q := List.inj_on_of_nodup_map distinct among mem same
      simp [found] at some
  | some t =>
      obtain ⟨front, back, rfl⟩ := List.append_of_mem mem
      rw [ofQuestions, List.filterMap_append, List.filterMap_cons, found]
      refine Keyed.get?_ofList_append_cons _ fun named => ?_
      obtain ⟨r, among, same, -⟩ := exists_of_predicted named
      rw [List.map_append, List.map_cons, List.nodup_append, List.nodup_cons] at distinct
      exact distinct.2.1.1 (same ▸ List.mem_map_of_mem among)

theorem get?_merge (older : Predictions) {newer : Predictions} (nodup : (newer.map (·.1)).Nodup)
    (id : String) :
    Keyed.get? id (older.merge newer) = (Keyed.get? id newer).or (Keyed.get? id older) := by
  have merged := Keyed.get?_foldl_update nodup id [] (fun t _ => t) older
  rwa [Option.map_id'] at merged

theorem lookup_recorded (id : String) :
    (entries.map recorded).lookup id = (entries.lookup id).map (·.getD []) := by
  induction entries with
  | nil => rfl
  | cons entry entries ih =>
      rw [List.map_cons, recorded, List.lookup_cons, List.lookup_cons]
      split
      · rfl
      · exact ih

theorem lookup_filter {α : Type} (test : String → Bool) {id : String} (kept : test id = true)
    (l : List (String × α)) : (l.filter fun p => test p.1).lookup id = l.lookup id := by
  induction l with
  | nil => rfl
  | cons p l ih =>
      obtain ⟨name, a⟩ := p
      rw [List.filter_cons]
      by_cases same : id = name
      · subst same
        rw [if_pos kept, List.lookup_cons_self, List.lookup_cons_self]
      · have skips (l : List (String × α)) : ((name, a) :: l).lookup id = l.lookup id := by
          simp [List.lookup_cons, beq_false_of_ne same]
        split
        · rw [skips, skips, ih]
        · rw [skips, ih]

/-- The predictions of a file are merged with those of the questions as they should be. -/
theorem get?_replaying (distinct : (questions.map (·.id)).Nodup) (mem : q ∈ questions) :
    Keyed.get? q.id ((ofQuestions questions).merge (.ofList (entries.map recorded))) =
      replayed entries q := by
  rw [get?_merge _ (Keyed.sorted_ofList _).nodup, Keyed.get?_ofList, ← List.map_reverse,
    lookup_recorded, get?_ofQuestions distinct mem, replayed]
  cases entries.reverse.lookup q.id <;> rfl

theorem predict_replaying {m : Type → Type} [Monad m] (distinct : (questions.map (·.id)).Nodup)
    (mem : q ∈ questions) : (replaying questions entries : Predictor m).predict q =
      pure ((replayed entries q).elim (.error (.missing q.id)) .value) := by
  have found : Keyed.get? q.id _ = replayed entries q := get?_replaying distinct mem
  simp only [replaying, predictor, replay]
  rw [found]
  cases replayed entries q <;> rfl

theorem replayed_concerning (mem : q ∈ questions) :
    replayed (concerning questions entries) q = replayed entries q := by
  have known : questions.any (·.id == q.id) = true :=
    List.any_eq_true.2 ⟨q, mem, beq_self_eq_true q.id⟩
  have same : (concerning questions entries).reverse.lookup q.id = entries.reverse.lookup q.id := by
    rw [concerning, ← List.filter_reverse]
    exact lookup_filter (fun id => questions.any (·.id == id)) known _
  rw [replayed, same, replayed]

end Predictions

/-! ### Records -/

/-- The record of a question for which this is replayed. -/
structure Record.ReplayedAs (entries : List (String × Option Text)) (q : Question)
    (r : Record Float) : Prop where
  asked : r.question = q
  predicted : r.predicted = (Predictions.replayed entries q).getD []
  error : r.predictionError = if (Predictions.replayed entries q).isSome then none
    else some (PredictionError.missing q.id).message

namespace Grader

variable {σ : Type} {g : Grader (StateM σ)} {questions : List Question}
  {entries : List (String × Option Text)}

/-- The record of a question keeps what came of asking for its prediction. -/
theorem settled_of_predicts {attempt : Attempt PredictionError Text} {q : Question}
    (predicts : g.predictor.predict q = pure attempt) (s : σ) :
    ((g.grade q s).1.predicted, (g.grade q s).1.predictionError) = Predictor.settle attempt := by
  simp only [grade, predicts]
  rfl

theorem grade_replayedAs {q : Question}
    (predicts : g.predictor.predict q =
      pure ((Predictions.replayed entries q).elim (.error (.missing q.id)) .value)) (s : σ) :
    (g.grade q s).1.ReplayedAs entries q := by
  obtain ⟨predicted, error⟩ := Prod.mk.inj (settled_of_predicts predicts s)
  refine ⟨rfl, predicted.trans ?_, error.trans ?_⟩ <;>
    cases Predictions.replayed entries q <;> rfl

/-- Graders that differ in their predictors alone grade a question alike if these predict alike. -/
theorem grade_congr {p p' : Predictor (StateM σ)} {q : Question} (same : p.predict q = p'.predict q)
    (suite : Suite (StateM σ)) (handle : Option (Handle (StateM σ))) (clock : StateM σ Nat) :
    (Grader.mk p suite handle clock).grade q = (Grader.mk p' suite handle clock).grade q := by
  simp only [grade, same]

end Grader

/-! ### A run -/

namespace Pipeline

variable {σ : Type} {host : Host (StateM σ)} {job : Job (StateM σ)} {path : String}
  {questions : List Question} {entries : List (String × Option Text)}

theorem resolvePredictor_of_written {fileText : Text} {file : Json} {s s' : σ}
    (recorded : job.predictor = none) (given : job.settings.predictionsPath = some path)
    (readable : host.read path s = (.ok fileText, s')) (parsed : Json.ofText? fileText = some file)
    (written : Predictions.FileWritten entries file) :
    resolvePredictor host job questions s =
      (.ok (Predictions.replaying questions entries), s') := by
  have read : Predictions.ofText? fileText = some (.ofList (entries.map Predictions.recorded)) := by
    rw [Predictions.ofText?, parsed, Option.bind_some, written.entriesOfJson?]
    rfl
  have loaded : loadPredictions host path s =
      (.ok (.ofList (entries.map Predictions.recorded)), s') := by
    simp only [loadPredictions, bind, StateT.bind, readable, read]
    rfl
  simp only [resolvePredictor, recorded, given, bind, StateT.bind, loaded]
  rfl

/-- A file of predictions is replayed for the questions of a dataset. However these are graded, each
record has the statement of the last entry under its identifier, the empty one where that is null;
without an entry it has the prediction of the question, and without both it says that there is none.
Entries under other identifiers change nothing. -/
theorem resolvePredictor_replays {datasetText fileText : Text} {file : Json} {s s' : σ}
    (accepted : Dataset.ofText datasetText = .ok questions) (recorded : job.predictor = none)
    (given : job.settings.predictionsPath = some path)
    (readable : host.read path s = (.ok fileText, s')) (parsed : Json.ofText? fileText = some file)
    (written : Predictions.FileWritten entries file) :
    (∃ dataset, Json.ofText? datasetText = some dataset ∧ Dataset.Written questions dataset) ∧
    resolvePredictor host job questions s =
      (.ok (Predictions.replaying questions entries), s') ∧
    (∀ q ∈ questions, (Predictions.replaying questions entries : Predictor (StateM σ)).predict q =
      pure ((Predictions.replayed entries q).elim (.error (.missing q.id)) .value)) ∧
    ∀ (suite : Suite (StateM σ)) (handle : Option (Handle (StateM σ))) (clock : StateM σ Nat)
      (allowed : Nat) (t : σ),
      let g (entries : List (String × Option Text)) : Grader (StateM σ) :=
        ⟨Predictions.replaying questions entries, suite, handle, clock⟩
      List.Forall₂ (Record.ReplayedAs entries) questions
        ((g entries).gradeAll allowed questions t).1.records ∧
      (g entries).gradeAll allowed questions t =
        (g (Predictions.concerning questions entries)).gradeAll allowed questions t := by
  have valid := (Dataset.ofText_eq_ok_iff.1 accepted).2
  have distinct := (Dataset.validate_eq_ok_iff.1 valid).2.2
  have predicts (entries : List (String × Option Text)) (q : Question) (mem : q ∈ questions) :
      (Predictions.replaying questions entries : Predictor (StateM σ)).predict q =
        pure ((Predictions.replayed entries q).elim (.error (.missing q.id)) .value) :=
    Predictions.predict_replaying distinct mem
  refine ⟨Dataset.written_of_ofText accepted,
    resolvePredictor_of_written recorded given readable parsed written, predicts entries,
    fun suite handle clock allowed t => ⟨?_, ?_⟩⟩
  · exact Grader.gradeAll_records
      (fun q mem t => Grader.grade_replayedAs (predicts entries q mem) t) allowed t
  · refine Grader.gradeAll_congr (fun q mem => Grader.grade_congr ?_ suite handle clock) allowed t
    rw [predicts entries q mem, predicts _ q mem, Predictions.replayed_concerning mem]

/-- An identifier that is a number in the dataset and stands in the file as a text and then, with a
null, as a number; two that only the dataset knows, one with a prediction and one without; and one
that only the file knows. -/
theorem resolvePredictor_replays_rows :
    let datasetText := ("[[7,\"\",\"SELECT 1\",\"easy\",\"SELECT 2\"]," ++
      "[\"a\",\"\",\"SELECT 3\",\"hard\",\"SELECT 4\"]," ++
      "\x7b\"id\":\"b\",\"query\":\"SELECT 5\"\x7d]").toList
    let fileText := ("[\x7b\"id\":\"7\",\"sql\":\"SELECT 6\"\x7d," ++
      "\x7b\"id\":7,\"predicted_sql\":null\x7d,[\"c\",\"SELECT 8\"]]").toList
    let questions : List Question :=
      [⟨"7", "", "SELECT 1".toList, "easy", some "SELECT 2".toList⟩,
        ⟨"a", "", "SELECT 3".toList, "hard", some "SELECT 4".toList⟩,
        ⟨"b", "", "SELECT 5".toList, "unknown", none⟩]
    let file : Json := .array [.object [("id", .string "7"), ("sql", .string "SELECT 6")],
      .object [("id", .int 7), ("predicted_sql", .null)],
      .array [.string "c", .string "SELECT 8"]]
    let entries : List (String × Option Text) :=
      [("7", some "SELECT 6".toList), ("7", none), ("c", some "SELECT 8".toList)]
    let host : Host (StateM Nat) :=
      { read := fun _ n => (.ok fileText, n + 1)
        hasFile := fun _ => pure true
        makeDirectory := fun _ => pure (.ok ())
        write := fun _ _ => pure (.ok ())
        clock := pure 0
        now := pure ⟨0⟩
        freshId := pure "run"
        databaseUrl := none }
    let job : Job (StateM Nat) :=
      { settings := { Settings.defaults with predictionsPath := some "predictions.json" }
        runDir := "runs"
        handle := none
        predictor := none }
    Dataset.ofText datasetText = .ok questions ∧ Json.ofText? fileText = some file ∧
      Predictions.FileWritten entries file ∧
      questions.map (Predictions.replayed entries) = [some [], some "SELECT 4".toList, none] ∧
      resolvePredictor host job questions 0 =
        (.ok (Predictions.replaying questions entries), 1) ∧
      ∀ (suite : Suite (StateM Nat)) (handle : Option (Handle (StateM Nat)))
        (clock : StateM Nat Nat) (allowed t : Nat),
        let g : Grader (StateM Nat) :=
          ⟨Predictions.replaying questions entries, suite, handle, clock⟩
        List.Forall₂ (Record.ReplayedAs entries) questions
          (g.gradeAll allowed questions t).1.records := by
  intro datasetText fileText questions file entries host job
  have accepted : Dataset.ofText datasetText = .ok questions :=
    Dataset.ofText_eq_ok_iff.2 ⟨by decide +kernel, by decide +kernel⟩
  have parsed : Json.ofText? fileText = some file := by
    simp only [fileText, String.reduceAppend, String.reduceToList]
    rfl
  have seven : IdWritten "7" (.int 7) := .number 7
  have written : Predictions.FileWritten entries file :=
    .rows (.cons (.named rfl rfl (.text "7") (.text "SELECT 6"))
      (.cons (.named rfl rfl seven .null)
        (.cons (.listed (.text "c") (.text "SELECT 8")) .nil)))
  have read : host.read "predictions.json" 0 = (.ok fileText, 1) := rfl
  obtain ⟨-, resolves, -, records⟩ :=
    resolvePredictor_replays accepted (show job.predictor = none from rfl) rfl read parsed written
  exact ⟨accepted, parsed, written, by decide, resolves,
    fun suite handle clock allowed t => (records suite handle clock allowed t).1⟩

end Pipeline

end SqlGrader
