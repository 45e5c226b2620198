import ChartQuery.Text.Space
import ChartQuery.Text.UpperCase

/-!
# Field types

To a chart a field holds numbers, dates or texts. The engine's type names are
sorted into these by two lists; the parameters of a type do not count, nor
does its case, and a name on neither list holds texts.
-/

namespace ChartQuery

inductive FieldType where
  | number
  | date
  | text
  deriving DecidableEq, Repr

namespace FieldType

def name : FieldType → String
  | number => "number"
  | date => "date"
  | text => "string"

end FieldType

/-- The names of an engine's types of numbers and of dates, in upper case. -/
structure TypeNames where
  number : List String
  date : List String
  deriving DecidableEq, Repr

namespace TypeNames

def duckdb : TypeNames where
  number :=
    ["TINYINT", "SMALLINT", "INTEGER", "BIGINT", "HUGEINT", "UTINYINT", "USMALLINT", "UINTEGER",
      "UBIGINT", "UHUGEINT", "INT", "INT1", "INT2", "INT4", "INT8", "SHORT", "LONG", "FLOAT",
      "FLOAT4", "FLOAT8", "REAL", "DOUBLE", "DECIMAL", "NUMERIC"]
  date :=
    ["DATE", "TIME", "TIMESTAMP", "DATETIME", "TIMESTAMP_S", "TIMESTAMP_MS", "TIMESTAMP_NS",
      "TIMESTAMP WITH TIME ZONE", "TIMESTAMPTZ", "TIME WITH TIME ZONE", "TIMETZ"]

/-- A type name up to its parameters, trimmed and in upper case. -/
def baseName (type : String) : String :=
  let base := type.toList.takeWhile (· != '(')
  String.ofList (Text.upperCaseText (Text.trim (String.ofList base)).toList)

def classify (names : TypeNames) (type : String) : FieldType :=
  if names.number.contains (baseName type) then .number
  else if names.date.contains (baseName type) then .date
  else .text

end TypeNames

end ChartQuery
