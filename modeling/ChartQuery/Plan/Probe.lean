import ChartQuery.Chart.Mark
import ChartQuery.Plan.Names
import ChartQuery.Source.Schema
import ChartQuery.Sql.Quoting

/-!
# The probe for distinct rows

Before values are aggregated the engine is asked whether the rows are already
distinct along the roles that tell one drawn mark from another. A table that
has none of them is not asked about, and counts as not distinct.
-/

namespace ChartQuery.Probe

def columns (mark : Mark) (schema : Schema) : List String :=
  (mark.identifyingRoles.map Role.field).filter schema.has

/-- The question, unless there are no columns. -/
def sql? (columns : List String) (table : String) : Option String :=
  if columns.isEmpty then none
  else
    some ("SELECT (count(DISTINCT row(" ++ nameList columns ++ ")) = count(*)) AS " ++
      quoteName Names.verdict ++ " FROM " ++ table)

/-- The verdict in the reply to the question. -/
def verdict (frame : Frame) : Except Error Bool :=
  match frame.column? Names.verdict with
  | none => .error (.internal (.noVerdict Names.verdict))
  | some column =>
    match column.cells with
    | .truths (some verdict :: _) => .ok verdict
    | .truths _ => .error (.internal .noVerdictRow)
    | other => .error (.internal (.verdictNotBoolean Names.verdict other.typeName))

def description (columns : List String) (distinct : Bool) : String :=
  if columns.isEmpty then "No categorical columns to probe; rows treated as not distinct"
  else
    "Rows are " ++ (if distinct then "" else "not ") ++ "distinct along (" ++
      commaSeparated columns ++ ")"

end ChartQuery.Probe
