import SqlGrader.Sql.NormalForm
/-!
# Clauses of a statement

The eight parts of a query that are compared one by one. A set of clauses is made from the parts
of a statement in their order: of each kind the first part that is not empty counts, and of joins
all of them count.
-/

namespace SqlGrader

inductive ClauseKind
  | projection
  | source
  | filter
  | joins
  | grouping
  | ordering
  | having
  | limit
  deriving Repr, DecidableEq

namespace ClauseKind

def all : List ClauseKind :=
  [projection, source, filter, joins, grouping, ordering, having, limit]

def name : ClauseKind → String
  | projection => "projection"
  | source => "source"
  | filter => "filter"
  | joins => "joins"
  | grouping => "grouping"
  | ordering => "ordering"
  | having => "having"
  | limit => "limit"

end ClauseKind

/-- The texts of a statement's clauses; the text of an absent clause is empty. The words that
introduce a clause are not part of its text, those of a join are. -/
structure ClauseSet where
  projection : Text
  source : Text
  filter : Text
  joins : List Text
  grouping : Text
  ordering : Text
  having : Text
  limit : Text
  reading : Reading
  deriving Repr, DecidableEq

namespace ClauseSet

/-- The first text of the kind that is not empty. -/
def firstOf (kind : ClauseKind) (parts : List (ClauseKind × Text)) : Text :=
  match parts.find? fun p => p.1 == kind && !p.2.isEmpty with
  | some p => p.2
  | none => []

/-- The clauses of a statement whose parts are given in order. -/
def ofParts (reading : Reading) (parts : List (ClauseKind × Text)) : ClauseSet where
  projection := firstOf .projection parts
  source := firstOf .source parts
  filter := firstOf .filter parts
  joins := (parts.filter fun p => p.1 == .joins && !p.2.isEmpty).map (·.2)
  grouping := firstOf .grouping parts
  ordering := firstOf .ordering parts
  having := firstOf .having parts
  limit := firstOf .limit parts
  reading := reading

/-- The text of one clause; that of the joins has a space between two of them. -/
def text (cs : ClauseSet) : ClauseKind → Text
  | .projection => cs.projection
  | .source => cs.source
  | .filter => cs.filter
  | .joins => Text.joinWith [' '] cs.joins
  | .grouping => cs.grouping
  | .ordering => cs.ordering
  | .having => cs.having
  | .limit => cs.limit

def isPresent (cs : ClauseSet) : ClauseKind → Bool
  | .joins => !cs.joins.isEmpty
  | kind => !(cs.text kind).isEmpty

/-- Whether one of the clauses is present that make a statement worth comparing by clauses. -/
def hasCore (cs : ClauseSet) : Bool :=
  !cs.projection.isEmpty || !cs.source.isEmpty || !cs.filter.isEmpty

end ClauseSet

end SqlGrader
