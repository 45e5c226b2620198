import ChartQuery.Proofs.Plan.Skipping
import ChartQuery.Proofs.Run.FaithfulEngine
import ChartQuery.Proofs.Run.Sending

/-!
# The label of an aggregated axis

If a run folds values, then the label of their axis says so: the words of the aggregate
stand before the names of columns. These are the columns of the axis, with one exception.
The label of x names the horizontal facet wherever there is one. For marks whose values
run along x the words of the aggregate then stand before the name of the facet, of which
nothing was folded.

Main statement: `aggregated_axis_label`.
-/

namespace ChartQuery

open Program Event SelectList

namespace Labels

def get (labels : Labels) : Role → Option String
  | .x => labels.x
  | .y => labels.y
  | .series => labels.series
  | _ => none

theorem get_orElse (labels fallback : Labels) (role : Role) :
    (labels.orElse fallback).get role = (labels.get role).or (fallback.get role) := by
  cases role <;> rfl

def titles (columns : List String) : String := commaSeparated (columns.map Text.titleCase)

def aggregated (f : Aggregate) (columns : List String) : String :=
  f.labelPrefix ++ " " ++ titles columns

theorem ofColumns?_of_some {columns : List String} (some : columns ≠ []) :
    ofColumns? columns = .some (titles columns) := by
  rw [ofColumns?, if_neg (by simpa using some), titles]

/-- The columns that the label of the value axis names. -/
def valueColumns (mark : Mark) (encoding : Encoding) : List String :=
  if mark.isHorizontal ∧ encoding.fx ≠ [] then encoding.fx else encoding.get mark.valueAxis

variable {mark : Mark} {encoding : Encoding}

theorem valueColumns_ne_nil (values : encoding.get mark.valueAxis ≠ []) :
    valueColumns mark encoding ≠ [] := by
  unfold valueColumns
  split
  · rename_i faceted
    exact faceted.2
  · exact values

/-- The trade of places for grouped bars, whose values run along y, does not matter. -/
theorem valueColumns_plan (mark : Mark) (encoding : Encoding) :
    valueColumns mark (Reshape.plan mark encoding).encoding = valueColumns mark encoding := by
  change valueColumns mark (Reshape.transpose mark encoding) = _
  by_cases grouped : mark.isGrouped
  · have upright : mark.isHorizontal = false := by cases mark <;> first | rfl | cases grouped
    simp [valueColumns, upright, Reshape.transpose_valueAxis]
  · rw [Reshape.transpose, if_neg grouped]

/-- The label that is inferred for the values, if they are aggregated. -/
theorem get_infer_valueAxis {given : Labels} (shape : Shape) (f : Aggregate)
    (values : encoding.get mark.valueAxis ≠ []) (unnamed : given.get mark.valueAxis = none) :
    (infer mark encoding shape (some f) given).get mark.valueAxis =
      some (aggregated f (valueColumns mark encoding)) := by
  rw [infer, get_orElse, unnamed, Option.none_or]
  have named := ofColumns?_of_some (valueColumns_ne_nil values)
  cases across : mark.isHorizontal with
  | true =>
    have source : (if Encoding.isSet encoding .fx then encoding.fx else encoding.x) =
        valueColumns mark encoding := by
      simp [valueColumns, Mark.valueAxis, across, Encoding.isSet_iff, PerRole.get]
    simp [withAggregate, across, Mark.valueAxis, get, source, named, aggregated]
  | false =>
    have source : encoding.y = valueColumns mark encoding := by
      simp [valueColumns, Mark.valueAxis, across, PerRole.get]
    simp [withAggregate, across, Mark.valueAxis, get, source, named, aggregated]

/-- The label names the columns of the axis, unless there is a facet with other names for
a mark whose values run along x. -/
theorem aggregated_valueColumns_iff (f : Aggregate) :
    aggregated f (valueColumns mark encoding) = aggregated f (encoding.get mark.valueAxis) ↔
      (mark.isHorizontal → encoding.fx ≠ [] → titles encoding.fx = titles encoding.x) := by
  rw [aggregated, aggregated, String.append_right_inj]
  by_cases across : mark.isHorizontal
  · by_cases facet : encoding.fx = []
    · simp [valueColumns, facet]
    · simp [valueColumns, across, facet, Mark.valueAxis, PerRole.get]
  · simp [valueColumns, across]

end Labels

theorem Aggregation.eq_of_body_eq {mark mark' : Mark} {schema schema' : Schema} {f g : Aggregate}
    {table table' : String} (firm : Text.Firm table) (firm' : Text.Firm table')
    (same : (query mark schema f table).body table = (query mark' schema' g table').body table') :
    f = g := by
  have items := congrArg items? same
  rw [items?_body mark schema f firm, items?_body mark' schema' g firm'] at items
  have grouping := congrArg readGrouping? (Option.some.inj items)
  rw [readGrouping?_items, readGrouping?_items] at grouping
  simp only [Option.some.injEq, Prod.mk.injEq] at grouping
  exact grouping.2.2

/-- The final query of a run folds values with an aggregate. -/
def Prepared.Folds (mark : Mark) (f : Aggregate) (prepared : Prepared) : Prop :=
  ∃ schema table, (Aggregation.query mark schema f (quoteName table)).sql =
    .ok prepared.queries.final

namespace Request

variable {names : TypeNames} {request : Request} {mark : Mark} {log : List Exchange}
  {prepared : Prepared} {f : Aggregate}

/-- What was chosen is what the final query says, and the labels are made for it. -/
theorem Returns.labels_eq (returns : request.Returns mark names log prepared)
    (folds : prepared.Folds mark f) :
    ∃ distinct, request.aggregateFor mark distinct = some f ∧
      let plan := Reshape.plan mark request.encoding
      prepared.data.labels = Labels.infer mark plan.encoding plan.shape (some f) request.labels := by
  obtain ⟨front, table, schema, distinct, frame, -, final, -, read⟩ := returns
  obtain ⟨schema', table', applied⟩ := folds
  have firm := firm_quoteName table.name
  have firm' := firm_quoteName table'
  rw [Aggregation.sql_query mark schema' f firm', final, Except.ok.injEq] at applied
  have chosen : request.aggregateFor mark distinct = some f := by
    cases aggregate : request.aggregateFor mark distinct with
    | none =>
      rw [aggregate] at applied
      exact (Aggregation.body_ne_everything _ _ _ _ _ applied).elim
    | some g =>
      rw [aggregate] at applied
      rw [Aggregation.eq_of_body_eq firm' firm applied]
  refine ⟨distinct, chosen, ?_⟩
  unfold readData at read
  have fine := ChartData.ofFrame_isOk_iff.1 ⟨_, read⟩
  rw [ChartData.ofFrame_ok _ fine, Except.ok.injEq] at read
  rw [← read, chosen]

end Request

/-- If a run folds values and the request gives no label for their axis, then the label is
the words of the aggregate and the names of columns. These are the columns of the axis, or
those of the horizontal facet if there is one and values run along x. So the label names
the columns of the axis unless there is such a facet with other names. -/
theorem aggregated_axis_label {names : TypeNames} {request : Request} {mark : Mark}
    {session : String} {events : List Event} {prepared : Prepared} {f : Aggregate}
    (valid : request.validate = .ok mark)
    (run : Steps session (request.prepare names) events (done (.ok prepared)))
    (folds : prepared.Folds mark f) (unnamed : request.labels.get mark.valueAxis = none) :
    prepared.data.labels.get mark.valueAxis =
        some (Labels.aggregated f (Labels.valueColumns mark request.encoding)) ∧
      (prepared.data.labels.get mark.valueAxis =
          some (Labels.aggregated f (request.encoding.get mark.valueAxis)) ↔
        (mark.isHorizontal → request.encoding.fx ≠ [] →
          Labels.titles request.encoding.fx = Labels.titles request.encoding.x)) := by
  have returns : request.Returns mark names (exchanges (withoutDrops events)) prepared :=
    Request.ends_of_log valid run
  obtain ⟨distinct, chosen, labels⟩ := returns.labels_eq folds
  have label : prepared.data.labels.get mark.valueAxis =
      some (Labels.aggregated f (Labels.valueColumns mark request.encoding)) := by
    rw [labels, Labels.get_infer_valueAxis _ f (Aggregation.values_of_choose chosen) unnamed,
      Labels.valueColumns_plan]
  refine ⟨label, ?_⟩
  rw [label, Option.some.injEq]
  exact Labels.aggregated_valueColumns_iff f

/-- The sums of `sales` are labelled by the column that was folded. -/
theorem faithfulSales_name_the_amount :
    sales.validate = .ok .barY ∧ sales.labels.get Mark.barY.valueAxis = none ∧
      ∃ events prepared, Steps "s" (sales.prepare .duckdb) events (done (.ok prepared)) ∧
        prepared.Folds .barY .sum ∧ prepared.data.labels.y = some "Sum of Amount" := by
  obtain ⟨events, steps, -, -⟩ := steps_run faithfulSales (sales.prepare .duckdb) {}
  obtain ⟨prepared, result, final⟩ : ∃ prepared,
      ((sales.prepare .duckdb).run faithfulSales {}).result = .ok prepared ∧
        prepared.queries.final = salesFinal := ⟨_, rfl, rfl⟩
  rw [result] at steps
  have folds : prepared.Folds .barY .sum := by
    refine ⟨[⟨"x", "VARCHAR"⟩, ⟨"y", "DOUBLE"⟩], "__sqlchart_tmp_transform_s_1__", ?_⟩
    rw [final]
    rfl
  obtain ⟨label, -⟩ := aggregated_axis_label rfl steps folds rfl
  refine ⟨rfl, rfl, events, prepared, steps, folds, label.trans ?_⟩
  decide +kernel

def facetedBars : Request where
  table := "sales"
  mark := some .barX
  encoding := { Encoding.empty with x := ["sales"], y := ["region"], fx := ["year"] }

def facetedSales : Setting where
  engine := .ofReplies
    [.ok (.ofTexts [("column_name", ["sales", "region", "year"]),
        ("column_type", ["DOUBLE", "VARCHAR", "VARCHAR"])]),
      .ok .empty,
      .ok (.ofTexts [("column_name", ["x", "y", "fx"]),
        ("column_type", ["DOUBLE", "VARCHAR", "VARCHAR"])]),
      .ok [⟨Names.verdict, .truths [some false]⟩],
      .ok [⟨"y", .texts [some "North"]⟩, ⟨"fx", .texts [some "1999"]⟩, ⟨"x", .doubles [none]⟩]]
  session := "s"

/-- The sales are summed, and the label of their axis tells of the sum of the year. -/
theorem facetedBars_name_the_year :
    facetedBars.validate = .ok .barX ∧ facetedBars.labels.get Mark.barX.valueAxis = none ∧
      ∃ events prepared, Steps "s" (facetedBars.prepare .duckdb) events (done (.ok prepared)) ∧
        prepared.Folds .barX .sum ∧
        prepared.data.labels.get Mark.barX.valueAxis = some "Sum of Year" ∧
        Labels.aggregated .sum (facetedBars.encoding.get Mark.barX.valueAxis) = "Sum of Sales" := by
  obtain ⟨events, steps, -, -⟩ := steps_run facetedSales (facetedBars.prepare .duckdb) {}
  obtain ⟨prepared, result, folds, label⟩ : ∃ prepared,
      ((facetedBars.prepare .duckdb).run facetedSales {}).result = .ok prepared ∧
        prepared.Folds .barX .sum ∧
        prepared.data.labels.get Mark.barX.valueAxis = some "Sum of Year" := by
    refine ⟨_, rfl, ⟨[⟨"x", "DOUBLE"⟩, ⟨"y", "VARCHAR"⟩, ⟨"fx", "VARCHAR"⟩],
      "__sqlchart_tmp_transform_s_0__", rfl⟩, by decide +kernel⟩
  rw [result] at steps
  exact ⟨rfl, rfl, events, prepared, steps, folds, label, by decide +kernel⟩

end ChartQuery
