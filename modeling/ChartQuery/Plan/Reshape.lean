import ChartQuery.Chart.Encoding
import ChartQuery.Chart.Mark
import ChartQuery.Plan.Names
import ChartQuery.Sql.Select

/-!
# Reshaping

The reshaped table has one column for each role of the chart, under the name
of the role's field. A role with one column takes it as it is, and a role with
several joins them to a key. If the axis of the values has several columns,
each row of the source becomes one row for each of them: their values stand in
one generated column, their names in another, and the names become the series.

`Reshape.items` is the select list as data, and the text of the statement is
made from it.
-/

namespace ChartQuery

/-- How the source is brought to one column per role. -/
inductive Shape where
  /-- Columns are renamed, since at most one holds values. -/
  | standard
  /-- The columns that hold values are rotated. -/
  | unpivot
  /-- They are rotated, and their names join a series that is already there. -/
  | unpivotWithSeries
  deriving DecidableEq, Repr

namespace Shape

def name : Shape → String
  | standard => "standard"
  | unpivot => "unpivot"
  | unpivotWithSeries => "unpivotWithSeries"

def ofName? : String → Option Shape
  | "standard" => some standard
  | "unpivot" => some unpivot
  | "unpivotWithSeries" => some unpivotWithSeries
  | _ => none

/-- The shape that the columns of a mark ask for. -/
def classify (mark : Mark) (encoding : Encoding) : Shape :=
  if (encoding.get mark.valueAxis).length < 2 then standard
  else if Encoding.isSet encoding .series then unpivotWithSeries
  else unpivot

def rotates (shape : Shape) : Bool := shape != standard

end Shape

/-- What an expression refers to. -/
inductive Operand where
  | column (name : String)
  /-- The name of the rotated column. -/
  | key
  /-- The value of the rotated column. -/
  | value
  deriving DecidableEq, Repr

namespace Operand

def sql : Operand → String
  | column name => quoteName name
  | key => quoteName Names.key
  | value => quoteName Names.value

/-- The operand as a text. The name of a column is a text already. -/
def textSql : Operand → String
  | column name => "CAST(" ++ quoteName name ++ " AS VARCHAR)"
  | other => other.sql

end Operand

/-- An item of the select list, without its name. -/
inductive Expression where
  | single (operand : Operand)
  /-- The texts of the operands with a separator between them. -/
  | joined (operands : List Operand)
  deriving DecidableEq, Repr

namespace Expression

def operands : Expression → List Operand
  | single operand => [operand]
  | joined operands => operands

def sql : Expression → String
  | single operand => operand.sql
  | joined operands =>
    "concat_ws(" ++ quoteText Names.separator ++ ", " ++
      commaSeparated (operands.map Operand.textSql) ++ ")"

def ofColumns? : List String → Option Expression
  | [] => none
  | [name] => some (single (.column name))
  | names => some (joined (names.map .column))

end Expression

structure Reshape where
  mark : Mark
  shape : Shape
  /-- The columns of each role, after grouped bars have traded places. -/
  encoding : Encoding
  deriving DecidableEq, Repr

namespace Reshape

/-- The columns of each role as a mark draws them. Grouped bars place what was x
on the horizontal facet, and the series along x. -/
def transpose (mark : Mark) (encoding : Encoding) : Encoding :=
  if mark.isGrouped then { encoding with x := encoding.series, fx := encoding.x } else encoding

def plan (mark : Mark) (encoding : Encoding) : Reshape :=
  let encoding := transpose mark encoding
  { mark, shape := Shape.classify mark encoding, encoding }

def rotated (plan : Reshape) : List String :=
  if plan.shape.rotates then plan.encoding.get plan.mark.valueAxis else []

/-- The series of a rotated table: the name of the rotated column, joined with
the columns of the series if there are any. -/
def rotatedSeries (plan : Reshape) : Expression :=
  if plan.encoding.series.isEmpty then .single .key
  else .joined (.key :: plan.encoding.series.map .column)

/-- The expression for a role, if the reshaped table has its field. -/
def expression? (plan : Reshape) (role : Role) : Option Expression :=
  if plan.shape.rotates then
    if role = plan.mark.valueAxis then some (.single .value)
    else if role = .series ∨ (role = .x ∧ plan.mark.isGrouped) then some plan.rotatedSeries
    else Expression.ofColumns? (plan.encoding.get role)
  else Expression.ofColumns? (plan.encoding.get role)

/-- The select list: the roles of the reshaped table with their expressions. -/
def items (plan : Reshape) : List (Role × Expression) :=
  Role.all.filterMap fun role => (plan.expression? role).map (role, ·)

def roles (plan : Reshape) : List Role := plan.items.map Prod.fst

def itemSql (item : Role × Expression) : String :=
  item.2.sql ++ " AS " ++ quoteName item.1.field

/-- The source of the rows, rotated if the plan says so. A missing value makes
a row like any other. -/
def sourceSql (plan : Reshape) (source : String) : String :=
  if plan.shape.rotates then
    source ++ " UNPIVOT INCLUDE NULLS (" ++ quoteName Names.value ++ " FOR " ++
      quoteName Names.key ++ " IN (" ++ nameList plan.rotated ++ "))"
  else source

/-- The query for the reshaped table. The source is SQL already. -/
def query (plan : Reshape) (source : String) : Select where
  expressions := plan.items.map itemSql
  source := some (plan.sourceSql source)

/-- The statement that creates the reshaped table. The destination is SQL too. -/
def sql (plan : Reshape) (source destination : String) : Except Error String :=
  { plan.query source with destination := some destination }.sql

def description (plan : Reshape) : String :=
  if plan.shape.rotates then
    "Reshaped with the " ++ plan.shape.name ++ " plan, rotating " ++ commaSeparated plan.rotated
  else "Reshaped with the standard plan"

end Reshape

end ChartQuery
