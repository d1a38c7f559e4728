import Mathlib.Data.List.Forall2
import Mathlib.Data.List.Nodup
import SqlGrader.Benchmark.Dataset
import SqlGrader.Benchmark.Predictions
/-!
# How questions and predictions are written

What a JSON value must hold to be the writing of a dataset, or of a file of predictions, said
without reading it: which members name a field and how many of them there may be, how an identifier
and a statement are written, and what the items of a list are. An identifier is written as itself
or, if it is the decimal notation of a whole number of 64 bits, as that number, in a dataset as in a
file. Whatever is read as a dataset is written so, and whatever is written so is read as the
predictions that it lists.
-/

namespace SqlGrader

theorem mapM_eq_some_iff {α β : Type} {f : α → Option β} {l : List α} {bs : List β} :
    l.mapM f = some bs ↔ List.Forall₂ (fun a b => f a = some b) l bs := by
  induction l generalizing bs with
  | nil => simp [eq_comm]
  | cons a l ih =>
      simp only [List.mapM_cons, Option.bind_eq_bind, Option.bind_eq_some_iff, ih, Option.pure_def,
        Option.some.injEq, List.forall₂_cons_left_iff]
      constructor
      · rintro ⟨b, here, bs, rest, rfl⟩
        exact ⟨b, bs, here, rest, rfl⟩
      · rintro ⟨b, bs, here, rest, rfl⟩
        exact ⟨b, here, bs, rest, rfl⟩

/-! ### Fields -/

namespace Json

/-- The values of the members that have one of the names. -/
def valuesOf (members : List (String × Json)) (names : List String) : List Json :=
  (members.filter fun m => names.contains m.1).map (·.2)

theorem fieldOf?_eq_some_iff {members : List (String × Json)} {names : List String}
    {field : Option Json} :
    fieldOf? members names = some field ↔ valuesOf members names = field.toList := by
  rw [fieldOf?, valuesOf]
  generalize members.filter (fun m => names.contains m.1) = found
  rcases found with _ | ⟨m, _ | ⟨n, ms⟩⟩ <;> cases field <;> simp

theorem RecordForm.length_of_read? {form : RecordForm} {items : List Json}
    {fields : List (Option Json)} (read : form.read? (.array items) = some fields) :
    form.leastItems ≤ items.length ∧ items.length ≤ form.names.length := by
  rw [read?] at read
  split at read
  next bounds => simpa using bounds
  · cases read

/-- In an array a field is the item at its place. -/
theorem RecordForm.field_of_read? {form : RecordForm} {items : List Json}
    {fields : List (Option Json)} (read : form.read? (.array items) = some fields) (place : Nat) :
    fields[place]?.join = items[place]? := by
  rw [read?] at read
  split at read
  · obtain rfl := Option.some.inj read
    rw [List.getElem?_append]
    by_cases known : place < items.length
    · simp [known]
    · by_cases there : place - items.length < form.names.length - items.length <;>
        simp [known, there]
  · cases read

end Json

/-- How an identifier is written: as itself, or as a whole number of 64 bits. -/
inductive IdWritten : String → Json → Prop
  | text (id : String) : IdWritten id (.string id)
  | number (n : Int64) : IdWritten (toString n.toInt) (.int n.toInt)

/-- How a statement is written that there may be. -/
inductive StatementWritten : Option Text → Option Json → Prop
  | missing : StatementWritten none none
  | null : StatementWritten none (some .null)
  | text (s : String) : StatementWritten (some s.toList) (some (.string s))

theorem ofList_intText (n : Int) : String.ofList (Decimal.intText n) = toString n := by
  cases n with
  | ofNat n => rfl
  | negSucc n =>
      rw [Decimal.intText, String.ofList_cons]
      rfl

theorem exists_of_isInt64 {n : Int} (small : isInt64 n = true) : ∃ m : Int64, m.toInt = n := by
  simp only [isInt64, Bool.and_eq_true, decide_eq_true_eq] at small
  exact ⟨.ofInt n, Int64.toInt_ofInt_of_le (by omega) (by omega)⟩

theorem IdWritten.of_idOfJson? {j : Json} {id : String} (read : Question.idOfJson? j = some id) :
    IdWritten id j := by
  cases j with
  | string s =>
      obtain rfl := Option.some.inj read
      exact .text s
  | int n =>
      rw [Question.idOfJson?, ofList_intText] at read
      split at read
      next small =>
        obtain rfl := Option.some.inj read
        obtain ⟨m, rfl⟩ := exists_of_isInt64 small
        exact .number m
      · cases read
  | _ => cases read

theorem IdWritten.idText {j : Json} {id : String} (written : IdWritten id j) :
    Predictions.idText j = id := by
  cases written with
  | text => rfl
  | number n => exact ofList_intText n.toInt

theorem statementWritten_iff {statement : Option Text} {field : Option Json} :
    Json.orElse none Json.textOrNull? field = some statement ↔
      StatementWritten statement field := by
  constructor
  · intro read
    rcases field with _ | _ | _ | _ | _ | s | _ | _
    case none =>
      obtain rfl := Option.some.inj read
      exact .missing
    case some.null =>
      obtain rfl := Option.some.inj read
      exact .null
    case some.string =>
      obtain rfl := Option.some.inj read
      exact .text s
    all_goals cases read
  · rintro (_ | _ | s) <;> rfl

/-! ### Datasets -/

/-- The identifier and the prediction of a question are those that an item of a dataset has. -/
inductive Question.Written (q : Question) : Json → Prop
  | named {members : List (String × Json)} {id : Json} {prediction : Option Json}
      (id_field : Json.valuesOf members ["id", "question_id"] = [id])
      (prediction_field : Json.valuesOf members ["predicted_sql"] = prediction.toList)
      (id_written : IdWritten q.id id) (written : StatementWritten q.prediction prediction) :
      Written q (.object members)
  | listed {items : List Json} {id : Json} (length : 3 ≤ items.length ∧ items.length ≤ 5)
      (id_item : items[0]? = some id) (id_written : IdWritten q.id id)
      (written : StatementWritten q.prediction items[4]?) : Written q (.array items)

theorem Question.written_of_ofJson? {item : Json} {q : Question} (read : ofJson? item = some q) :
    q.Written item := by
  simp only [ofJson?, Option.bind_eq_bind, Option.bind_eq_some_iff] at read
  obtain ⟨fields, shape, read⟩ := read
  split at read
  next idField asked reference difficulty prediction =>
    simp only [Option.bind_eq_some_iff, Option.some.injEq] at read
    obtain ⟨_, idRead, _, -, _, -, _, -, _, predictionRead, rfl⟩ := read
    obtain ⟨id, rfl, idRead⟩ := Option.bind_eq_some_iff.1 idRead
    have idWritten := IdWritten.of_idOfJson? idRead
    have written := statementWritten_iff.1 predictionRead
    cases item with
    | object members =>
        rw [Json.RecordForm.read?, mapM_eq_some_iff] at shape
        simp only [form, List.forall₂_cons, Json.fieldOf?_eq_some_iff] at shape
        obtain ⟨named, -, -, -, predictionNamed, -⟩ := shape
        exact .named named predictionNamed idWritten written
    | array items =>
        have first : items[0]? = some id := (Json.RecordForm.field_of_read? shape 0).symm
        have fifth : items[4]? = prediction := (Json.RecordForm.field_of_read? shape 4).symm
        exact .listed (Json.RecordForm.length_of_read? shape) first idWritten (fifth ▸ written)
    | _ => cases shape
  · cases read

namespace Dataset

/-- A dataset is a list of questions, or an object that holds one. -/
inductive Written (questions : List Question) : Json → Prop
  | list {items : List Json} (each : List.Forall₂ Question.Written questions items) :
      Written questions (.array items)
  | wrapped {members : List (String × Json)} {items : List Json}
      (field : Json.valuesOf members ["questions"] = [.array items])
      (each : List.Forall₂ Question.Written questions items) :
      Written questions (.object members)

theorem forall₂_written {items : List Json} {questions : List Question}
    (read : items.mapM Question.ofJson? = some questions) :
    List.Forall₂ Question.Written questions items :=
  ((mapM_eq_some_iff.1 read).imp fun _ _ => Question.written_of_ofJson?).flip

theorem written_of_questionsOfJson? {dataset : Json} {questions : List Question}
    (read : questionsOfJson? dataset = some questions) : Written questions dataset := by
  cases dataset with
  | array items => exact .list (forall₂_written read)
  | object members =>
      rw [questionsOfJson?] at read
      split at read
      next items named => exact .wrapped (Json.fieldOf?_eq_some_iff.1 named) (forall₂_written read)
      · cases read
  | _ => cases read

/-- A question passes the checks if it has an identifier that none before it has, and a reference.
-/
theorem checkFrom_eq_ok_iff {seen : List String} {questions : List Question} :
    checkFrom seen questions = .ok () ↔
      (∀ q ∈ questions, Text.isAllBlank q.id.toList = false ∧ Text.isAllBlank q.reference = false) ∧
      (∀ q ∈ questions, q.id ∉ seen) ∧ (questions.map (·.id)).Nodup := by
  induction questions generalizing seen with
  | nil => simp [checkFrom]
  | cons q questions ih =>
      rw [checkFrom]
      split
      next blank => simp [blank]
      split
      next repeated => simp [List.contains_iff_mem.1 repeated]
      split
      next unstated => simp [unstated]
      next named fresh stated =>
        rw [List.contains_iff_mem] at fresh
        have others : (∀ r ∈ questions, r.id ∉ q.id :: seen) ↔
            q.id ∉ questions.map (·.id) ∧ ∀ r ∈ questions, r.id ∉ seen := by
          simp only [List.mem_cons, not_or, List.mem_map, not_exists, not_and, forall_and]
        rw [ih, others, List.map_cons, List.nodup_cons, List.forall_mem_cons, List.forall_mem_cons]
        simp only [named, stated, fresh, true_and, not_false_eq_true]
        tauto

/-- The checks that a list of questions passes. -/
theorem validate_eq_ok_iff {questions : List Question} :
    validate questions = .ok () ↔ questions ≠ [] ∧
      (∀ q ∈ questions, Text.isAllBlank q.id.toList = false ∧ Text.isAllBlank q.reference = false) ∧
      (questions.map (·.id)).Nodup := by
  cases questions with
  | nil => simp [validate]
  | cons q questions =>
      have some : (q :: questions).isEmpty = false := rfl
      simp [validate, some, checkFrom_eq_ok_iff]

theorem ofText_eq_ok_iff {t : Text} {questions : List Question} :
    ofText t = .ok questions ↔
      (Json.ofText? t).bind questionsOfJson? = some questions ∧ validate questions = .ok () := by
  rw [ofText]
  cases (Json.ofText? t).bind questionsOfJson? with
  | none => simp
  | some listed =>
      change (validate listed).map (fun _ => listed) = _ ↔ _
      rw [Option.some.injEq]
      constructor
      · intro accepted
        cases valid : validate listed with
        | error e => simp [valid, Except.map] at accepted
        | ok _ =>
            rw [valid] at accepted
            obtain rfl := Except.ok.inj accepted
            exact ⟨rfl, valid⟩
      · rintro ⟨rfl, valid⟩
        rw [valid]
        rfl

/-- What is accepted as a dataset is written as one. -/
theorem written_of_ofText {t : Text} {questions : List Question}
    (accepted : ofText t = .ok questions) :
    ∃ dataset, Json.ofText? t = some dataset ∧ Written questions dataset := by
  obtain ⟨dataset, parsed, listed⟩ := Option.bind_eq_some_iff.1 (ofText_eq_ok_iff.1 accepted).1
  exact ⟨dataset, parsed, written_of_questionsOfJson? listed⟩

end Dataset

/-! ### Files of predictions -/

namespace Predictions

/-- A row has an identifier and perhaps a statement. -/
inductive RowWritten (entry : String × Option Text) : Json → Prop
  | named {members : List (String × Json)} {id : Json} {statement : Option Json}
      (id_field : Json.valuesOf members ["id", "question_id"] = [id])
      (statement_field :
        Json.valuesOf members ["predicted_sql", "sql", "sql_query"] = statement.toList)
      (id_written : IdWritten entry.1 id) (written : StatementWritten entry.2 statement) :
      RowWritten entry (.object members)
  | listed {id statement : Json} (id_written : IdWritten entry.1 id)
      (written : StatementWritten entry.2 (some statement)) :
      RowWritten entry (.array [id, statement])

/-- A file lists entries as the members of an object or as rows. -/
inductive FileWritten (entries : List (String × Option Text)) : Json → Prop
  | map {members : List (String × Json)}
      (each : List.Forall₂ (fun entry member =>
        member.1 = entry.1 ∧ StatementWritten entry.2 (some member.2)) entries members) :
      FileWritten entries (.object members)
  | rows {rows : List Json} (each : List.Forall₂ RowWritten entries rows) :
      FileWritten entries (.array rows)

/-- What is recorded for an entry: the empty statement if there is none. -/
def recorded (entry : String × Option Text) : String × Text := (entry.1, entry.2.getD [])

variable {entry : String × Option Text} {entries : List (String × Option Text)}

theorem entryOfRow?_of_fields {row id : Json} {statement : Option Json}
    (shape : rowForm.read? row = some [some id, statement]) (idWritten : IdWritten entry.1 id)
    (written : StatementWritten entry.2 statement) : entryOfRow? row = some (recorded entry) := by
  have read := statementWritten_iff.2 written
  simp [entryOfRow?, shape, read, idWritten.idText, recorded]

theorem RowWritten.entryOfRow? {row : Json} (written : RowWritten entry row) :
    entryOfRow? row = some (recorded entry) := by
  cases written with
  | @named members id statement idField statementField idWritten written =>
      have fields : rowForm.read? (.object members) = some [some id, statement] :=
        mapM_eq_some_iff.2 (.cons (Json.fieldOf?_eq_some_iff.2 idField)
          (.cons (Json.fieldOf?_eq_some_iff.2 statementField) .nil))
      exact entryOfRow?_of_fields fields idWritten written
  | listed idWritten written => exact entryOfRow?_of_fields rfl idWritten written

theorem FileWritten.entriesOfJson? {file : Json} (written : FileWritten entries file) :
    entriesOfJson? file = some (entries.map recorded) := by
  cases written with
  | map each =>
      refine mapM_eq_some_iff.2 (List.forall₂_map_right_iff.2 (each.flip.imp ?_))
      rintro member entry ⟨same, written⟩
      have read : Json.textOrNull? member.2 = some entry.2 := statementWritten_iff.2 written
      rw [entryOfMember?, read, same]
      rfl
  | rows each =>
      refine mapM_eq_some_iff.2 (List.forall₂_map_right_iff.2 (each.flip.imp ?_))
      exact fun row entry written => written.entryOfRow?

end Predictions

end SqlGrader
