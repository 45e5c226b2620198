import ChartQuery.Chart.Labels
import ChartQuery.Plan.Reshape
import ChartQuery.Text.TitleCase

/-!
# Labels from column names

Where a request gives no label, the names of the columns serve, in title case.
The label of x comes from the horizontal facet if there is one. The label of
an aggregated axis says which aggregate it shows.
-/

namespace ChartQuery.Labels

def ofColumns? (columns : List String) : Option String :=
  if columns.isEmpty then none else some (commaSeparated (columns.map Text.titleCase))

/-- The columns whose names label the series. -/
def seriesColumns (mark : Mark) (encoding : Encoding) : Shape → List String
  | .standard => encoding.series
  | .unpivot => encoding.get mark.valueAxis
  | .unpivotWithSeries => encoding.get mark.valueAxis ++ encoding.series

/-- The label of an axis with the words of the aggregate in front. -/
def withAggregate (mark : Mark) (aggregate : Option Aggregate) (labels : Labels) : Labels :=
  match aggregate with
  | none => labels
  | some f =>
    let mention := Option.map fun label => f.labelPrefix ++ " " ++ label
    if mark.isHorizontal then { labels with x := mention labels.x }
    else { labels with y := mention labels.y }

/-- The labels of a chart: those that are given, and the names of the columns for
the others. The encoding is that of the reshaped table. -/
def infer (mark : Mark) (encoding : Encoding) (shape : Shape) (aggregate : Option Aggregate)
    (given : Labels) : Labels :=
  let inferred : Labels :=
    { x := ofColumns? (if Encoding.isSet encoding .fx then encoding.fx else encoding.x)
      y := ofColumns? encoding.y
      series := ofColumns? (seriesColumns mark encoding shape) }
  given.orElse (withAggregate mark aggregate inferred)

end ChartQuery.Labels
