import ChartQuery.Sql.Quoting
import ChartQuery.Json.Basic

/-!
# Conditions

A condition compares one column with a value. A fuzzy value is a piece of SQL
that the caller has already written, and stands for the whole condition.

In JSON the kinds of value are told apart by their form: a number, a truth
value, a text, an object with a text called `fuzzy`, or `null`.
-/

namespace ChartQuery

inductive Operator where
  | eq
  | notEq
  | lt
  | ltEq
  | gt
  | gtEq
  | like
  | iLike
  deriving DecidableEq, Repr

namespace Operator

def all : List Operator := [eq, notEq, lt, ltEq, gt, gtEq, like, iLike]

def name : Operator → String
  | eq => "eq"
  | notEq => "notEq"
  | lt => "lt"
  | ltEq => "ltEq"
  | gt => "gt"
  | gtEq => "gtEq"
  | like => "like"
  | iLike => "iLike"

def ofName? (name : String) : Option Operator :=
  all.find? fun operator => operator.name == name

def sql : Operator → String
  | eq => "="
  | notEq => "<>"
  | lt => "<"
  | ltEq => "<="
  | gt => ">"
  | gtEq => ">="
  | like => "LIKE"
  | iLike => "ILIKE"

theorem ofName?_name (operator : Operator) : ofName? operator.name = some operator := by
  cases operator <;> decide

end Operator

inductive Comparand where
  | number (value : Double)
  | truth (value : Bool)
  | text (value : String)
  | fuzzy (fragment : String)
  | null
  deriving DecidableEq, Repr

namespace Comparand

def ofJson? : Json → Option Comparand
  | .null => some .null
  | .bool b => some (.truth b)
  | .string s => some (.text s)
  | .object members => do
    let fields ← (Json.object members).fields? ["fuzzy"]
    let fragment ← (← fields.get? "fuzzy" 0).toString?
    return .fuzzy fragment
  | json => json.toDouble?.map .number

def toJson : Comparand → Json
  | number x => .ofDouble x
  | truth b => .bool b
  | text s => .string s
  | fuzzy fragment => .object [("fuzzy", .string fragment)]
  | null => .null

end Comparand

structure Condition where
  column : String
  operator : Operator
  value : Comparand
  deriving DecidableEq, Repr

namespace Condition

/-- The condition as SQL. A comparison with `null` asks whether there is a value,
whatever the operator, except that `notEq` asks for one. -/
def sql (condition : Condition) : String :=
  let column := quoteName condition.column
  let comparison := column ++ " " ++ condition.operator.sql ++ " "
  match condition.value with
  | .fuzzy fragment => fragment
  | .null =>
    if condition.operator = .notEq then column ++ " IS NOT NULL" else column ++ " IS NULL"
  | .text s => comparison ++ quoteText s
  | .number x => comparison ++ x.text
  | .truth b => comparison ++ if b then "TRUE" else "FALSE"

def ofJson? (json : Json) : Option Condition := do
  let fields ← json.fields? ["column", "operator", "value"]
  let column ← (← fields.get? "column" 0).toString?
  let operator ← Operator.ofName? (← (← fields.get? "operator" 1).toWord?)
  let value ← Comparand.ofJson? (← fields.get? "value" 2)
  return ⟨column, operator, value⟩

def toJson (condition : Condition) : Json :=
  .object
    [("column", .string condition.column), ("operator", .string condition.operator.name),
      ("value", condition.value.toJson)]

end Condition

end ChartQuery
