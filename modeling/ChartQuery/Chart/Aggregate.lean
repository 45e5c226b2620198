import ChartQuery.Text.Space

/-!
# Aggregates

The functions that fold the values of a group into one. Without a choice of
the caller's the values are summed.
-/

namespace ChartQuery

inductive Aggregate where
  | sum
  | avg
  | median
  | min
  | max
  | count
  deriving DecidableEq, Repr

namespace Aggregate

instance : Inhabited Aggregate := ⟨sum⟩

def all : List Aggregate := [sum, avg, median, min, max, count]

def name : Aggregate → String
  | sum => "sum"
  | avg => "avg"
  | median => "median"
  | min => "min"
  | max => "max"
  | count => "count"

/-- The aggregate of a name. An average is also a mean. -/
def ofName? (name : String) : Option Aggregate :=
  if name = "mean" then some avg else all.find? fun f => f.name == name

/-- The SQL expression over an expression: numbers are folded as doubles, and
anything can be counted. -/
def expression (f : Aggregate) (operand : String) : String :=
  match f with
  | count => "count(" ++ operand ++ ")"
  | _ => f.name ++ "(CAST(" ++ operand ++ " AS DOUBLE))"

def resultType : Aggregate → String
  | count => "BIGINT"
  | _ => "DOUBLE"

def labelPrefix : Aggregate → String
  | sum => "Sum of"
  | avg => "Average of"
  | median => "Median of"
  | min => "Min of"
  | max => "Max of"
  | count => "Count of"

theorem ofName?_name (f : Aggregate) : ofName? f.name = some f := by
  cases f <;> decide

end Aggregate

end ChartQuery
