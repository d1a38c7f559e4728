import SqlGrader.Benchmark.Summary
/-!
# Tabulation in one pass

The tables of a summary made in one pass over the records. Each record is counted under its
difficulty, where the row of a new difficulty is put in first. If its question was answered, each of
its verdicts is counted in both tables: under its metric, and under its metric within the
difficulty.
-/

namespace SqlGrader

/-- The tables of a summary while records are counted. -/
structure Tables (α : Type) where
  metrics : Keyed (MetricSummary α)
  difficulties : Keyed (DifficultySummary α)

namespace Tables

variable {α : Type} [Scale α]

/-- The tables before any record. -/
def ofNames (names : List String) : Tables α := ⟨Summary.noMetrics names, []⟩

/-- Changes the row of a difficulty. -/
def change (difficulty : String) (f : DifficultySummary α → DifficultySummary α) (t : Tables α) :
    Tables α :=
  { t with difficulties := Keyed.update difficulty .zero f t.difficulties }

/-- Counts a verdict in both tables. -/
def addVerdict (difficulty : String) (t : Tables α) (p : String × Verdict α) : Tables α :=
  { t with metrics := Keyed.update p.1 .zero (·.add p.2) t.metrics }.change difficulty fun s =>
    { s with metrics := Keyed.update p.1 .zero (·.add p.2) s.metrics }

/-- Counts a record. -/
def add (t : Tables α) (r : Record α) : Tables α :=
  let counted := t.change r.question.difficulty fun s => { s with total := s.total + 1 }
  if r.isAnswered then
    r.verdicts.foldl (addVerdict r.question.difficulty)
      (counted.change r.question.difficulty fun s => { s with answered := s.answered + 1 })
  else counted

/-- Counts every record. -/
def ofRecords (names : List String) (records : List (Record α)) : Tables α :=
  records.foldl add (ofNames names)

end Tables

end SqlGrader
