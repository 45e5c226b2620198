import ChartQuery.Chart.Encoding
import ChartQuery.Chart.Mark
import ChartQuery.Source.Schema
import ChartQuery.Sql.Select

/-!
# Aggregation

Rows that are not distinct are grouped by every field but the value, and the
values of a group are folded into one. Without a choice of the caller's this
needs a mark that allows it and something to group by, so that a whole table
is never folded into one row by itself.
-/

namespace ChartQuery.Aggregation

/-- Something to group by: the categories or the horizontal facet, and for
radial marks the series or the text. -/
def hasGroupingKey (mark : Mark) (encoding : Encoding) : Bool :=
  Encoding.isSet encoding mark.categoryAxis || Encoding.isSet encoding .fx ||
    (mark.isRadial && (Encoding.isSet encoding .series || Encoding.isSet encoding .text))

def choose (mark : Mark) (encoding : Encoding) (distinct : Bool) (choice : Option Aggregate) :
    Option Aggregate :=
  let allowed := mark.allowsAggregation || choice.isSome
  let keyed := hasGroupingKey mark encoding || choice.isSome
  if !distinct && allowed && keyed && Encoding.isSet encoding mark.valueAxis then
    some (choice.getD default)
  else none

/-- The fields to group by: all but the value, in the order of the schema. -/
def groupColumns (mark : Mark) (schema : Schema) : List String :=
  schema.names.filter (· != mark.valueAxis.field)

/-- The query that folds the values of each group, in the order of the groups. -/
def query (mark : Mark) (schema : Schema) (f : Aggregate) (table : String) : Select :=
  let groups := groupColumns mark schema
  let value := quoteName mark.valueAxis.field
  { columns := groups
    aggregate := some (f.expression value ++ " AS " ++ value)
    source := some table
    groupBy := groups
    orderBy := some (.ascending groups) }

def resultSchema (mark : Mark) (schema : Schema) (f : Aggregate) : Schema :=
  schema.filter (·.name != mark.valueAxis.field) ++ [⟨mark.valueAxis.field, f.resultType⟩]

def description (mark : Mark) (schema : Schema) : Option Aggregate → String
  | some f =>
    let groups := groupColumns mark schema
    "Aggregated " ++ mark.valueAxis.field ++ " with " ++ f.name ++ " grouped by " ++
      if groups.isEmpty then "nothing" else commaSeparated groups
  | none => "No aggregation applied"

end ChartQuery.Aggregation
