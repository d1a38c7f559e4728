import SqlGrader.Text.Basic
/-!
# Words with a fixed meaning

The unquoted words whose letter case carries no meaning: the reserved words, the built-in
functions and the date parts and type names that occur inside expressions. They are written in
capitals in a normal form. A reserved word or a function name is never taken for an alias that
stands without `AS`.

Comparison is up to the case of ASCII letters.
-/

namespace SqlGrader.Keyword

/-- Words that the grammar reserves. -/
def reserved : List String :=
  ["ALL", "AND", "ANY", "ARRAY", "AS", "ASC", "BETWEEN", "BY", "CASE", "CAST", "COLLATE",
   "CROSS", "CURRENT_DATE", "CURRENT_TIME", "CURRENT_TIMESTAMP", "DESC", "DISTINCT", "ELSE",
   "END", "ESCAPE", "EXCEPT", "EXISTS", "FALSE", "FETCH", "FILTER", "FIRST", "FOLLOWING", "FOR",
   "FROM", "FULL", "GROUP", "HAVING", "ILIKE", "IN", "INNER", "INTERSECT", "INTERVAL", "INTO",
   "IS", "JOIN", "LAST", "LATERAL", "LEFT", "LIKE", "LIMIT", "NATURAL", "NEXT", "NOT", "NULL",
   "NULLS", "OFFSET", "ON", "ONLY", "OR", "ORDER", "OUTER", "OVER", "PARTITION", "PRECEDING",
   "RANGE", "RECURSIVE", "RIGHT", "ROW", "ROWS", "SELECT", "SIMILAR", "SOME", "THEN", "TIES",
   "TO", "TRUE", "UNBOUNDED", "UNION", "USING", "VALUES", "WHEN", "WHERE", "WINDOW", "WITH",
   "WITHIN"]

/-- Names of built-in functions. -/
def functions : List String :=
  ["ABS", "AGE", "ARRAY_AGG", "AVG", "BOOL_AND", "BOOL_OR", "CEIL", "CEILING", "COALESCE",
   "CONCAT", "COUNT", "DATE_PART", "DATE_TRUNC", "DENSE_RANK", "EXTRACT", "FLOOR", "GREATEST",
   "LAG", "LEAD", "LEAST", "LENGTH", "LOWER", "MAX", "MEDIAN", "MIN", "MODE", "NOW", "NTILE",
   "NULLIF", "PERCENTILE_CONT", "PERCENTILE_DISC", "POSITION", "RANK", "REPLACE", "ROUND",
   "ROW_NUMBER", "STDDEV", "STRING_AGG", "SUBSTR", "SUBSTRING", "SUM", "TO_CHAR", "TO_DATE",
   "TO_TIMESTAMP", "TRIM", "TRUNC", "UPPER", "VARIANCE"]

/-- Date parts and type names. -/
def expressionWords : List String :=
  ["BIGINT", "BOOLEAN", "CHAR", "DATE", "DAY", "DECIMAL", "DOUBLE", "DOW", "DOY", "EPOCH",
   "FLOAT", "HOUR", "INT", "INTEGER", "MINUTE", "MONTH", "NUMERIC", "PRECISION", "QUARTER",
   "REAL", "SECOND", "SMALLINT", "TEXT", "TIME", "TIMESTAMP", "VARCHAR", "WEEK", "YEAR"]

/-- Whether `words` holds the word, letter case aside. -/
def holds (words : List String) (w : Text) : Bool :=
  words.any fun k => k.toList == Text.upper w

def isReserved (w : Text) : Bool := holds reserved w

def isFunction (w : Text) : Bool := holds functions w

/-- Whether the word is written in capitals in a normal form. -/
def isFoldable (w : Text) : Bool :=
  isReserved w || isFunction w || holds expressionWords w

end SqlGrader.Keyword
