import ChartQuery.Proofs.Plan.AxisExpressions
import ChartQuery.Source.Frame

/-!
# Grouped bars

Grouped bars stand side by side along x, one for each value of the series, and the categories
are on the facet. So x and the series have to be the same. They are made in two places: in a
table that is not rotated both are made of the columns of the series, and in a rotated one
both are the key. The rules of a request see to it that there is one or the other.

Main statement: `grouped_bars_share_series`.
-/

namespace ChartQuery

open SelectList

/-- The expression for a series, given the columns that a request has for it. -/
inductive SeriesForm (series : List String) : Shape → Expression → Prop
  | column {name : String} :
    series = [name] → SeriesForm series .standard (.single (.column name))
  | joined : 2 ≤ series.length → SeriesForm series .standard (.joined (series.map .column))
  | key : series = [] → SeriesForm series .unpivot (.single .key)
  | keyed :
    series ≠ [] → SeriesForm series .unpivotWithSeries (.joined (.key :: series.map .column))

/-- The cells that a query has under a name for a row of its source, in which every
expression has the given value. -/
def SelectList.cellsUnder (query : String) (value : String → Cell) (name : String) : List Cell :=
  (expressionsUnder query name).map value

theorem Expression.sql_ofColumns? {columns : List String} (few : columns.length ≤ 1) :
    ((ofColumns? columns).map sql).toList = columns.map quoteName := by
  match columns with
  | [] | [_] => rfl
  | _ :: _ :: _ => simp at few

namespace Reshape

variable {mark : Mark} {encoding : Encoding}

theorem shape_plan (mark : Mark) (encoding : Encoding) :
    (Reshape.plan mark encoding).shape = Shape.classify mark encoding := by
  change Shape.classify mark (transpose mark encoding) = _
  have series : Encoding.isSet (transpose mark encoding) .series =
      Encoding.isSet encoding .series := by
    unfold transpose
    split <;> rfl
  rw [Shape.classify, Shape.classify, transpose_valueAxis, series]

theorem series_plan (mark : Mark) (encoding : Encoding) :
    (Reshape.plan mark encoding).encoding.series = encoding.series := by
  change (transpose mark encoding).series = _
  unfold transpose
  split <;> rfl

/-- Along x grouped bars have the expression of their series. -/
theorem expression?_x_of_isGrouped (grouped : mark.isGrouped) :
    (Reshape.plan mark encoding).expression? .x =
      (Reshape.plan mark encoding).expression? .series := by
  have other : .x ≠ (Reshape.plan mark encoding).mark.valueAxis := by
    change .x ≠ mark.valueAxis
    rw [Mark.valueAxis_of_isGrouped grouped]
    decide
  have traded : Role.x = .series ∨ Role.x = .x ∧ (Reshape.plan mark encoding).mark.isGrouped :=
    .inr ⟨rfl, grouped⟩
  rw [expression?_series, expression?, if_neg other, if_pos traded, get_plan_x grouped]
  rfl

theorem exists_standardForm {series : List String} (some : series ≠ []) :
    ∃ e, Expression.ofColumns? series = Option.some e ∧ SeriesForm series .standard e := by
  match series with
  | [] => exact absurd rfl some
  | [name] => exact ⟨_, rfl, .column rfl⟩
  | _ :: _ :: _ => exact ⟨_, rfl, .joined (by simp)⟩

/-- A rotated table has a series always. -/
theorem rotatedForm (encoding : Encoding) :
    SeriesForm encoding.series
      (if Encoding.isSet encoding .series then .unpivotWithSeries else .unpivot)
      (if encoding.series.isEmpty then .single .key
        else .joined (.key :: encoding.series.map .column)) := by
  have isSet : Encoding.isSet encoding .series = !encoding.series.isEmpty := rfl
  rw [isSet]
  by_cases none : encoding.series = []
  · have key : SeriesForm [] .unpivot (.single .key) := .key rfl
    simpa [none] using key
  · simpa [none] using SeriesForm.keyed none

/-- The shape and the columns of the series decide what the expression of the series is. A
valid request for grouped bars has such columns, or values to rotate. -/
theorem exists_seriesForm (placed : Request.WellPlaced mark encoding) (grouped : mark.isGrouped) :
    ∃ e, (Reshape.plan mark encoding).expression? .series = some e ∧
      SeriesForm encoding.series (Reshape.plan mark encoding).shape e := by
  rw [expression?_series, rotatedSeries, series_plan, shape_plan, Shape.classify]
  by_cases few : (encoding.get mark.valueAxis).length < 2
  · have set := (placed.series grouped).resolve_left (by omega)
    rw [if_pos few, if_neg (by decide)]
    exact exists_standardForm (by simpa [Encoding.isSet, PerRole.get] using set)
  · rw [if_neg few, if_pos (by split <;> rfl)]
    exact ⟨_, rfl, rotatedForm encoding⟩

theorem expression?_fx_of_isGrouped (placed : Request.WellPlaced mark encoding)
    (grouped : mark.isGrouped) :
    (Reshape.plan mark encoding).expression? .fx = Expression.ofColumns? encoding.x ∧
      encoding.x.length ≤ 1 := by
  have mem : (Role.fx, encoding.x) ∈ mark.axes encoding := by simp [Mark.axes, grouped]
  have other : .fx ≠ mark.valueAxis := by
    rw [Mark.valueAxis_of_isGrouped grouped]
    decide
  rcases placed.expression?_axis mem with ⟨few, made⟩ | ⟨-, value, -⟩
  · exact ⟨made, few⟩
  · exact absurd value other

end Reshape

/-- Grouped bars have one expression for x and for the series, whatever is rotated. On the
facet they have the column that was x, if there was one. -/
theorem grouped_bars_share_series {request : Request} {mark : Mark} {source : String}
    (valid : request.validate = .ok mark) (grouped : mark.isGrouped)
    (solid : Text.isBlank source = false) (destination : String) :
    let plan := Reshape.plan mark request.encoding
    plan.shape = Shape.classify mark request.encoding ∧
    ∃ query e, plan.sql source destination = .ok (Select.creation destination ++ query) ∧
      SeriesForm request.encoding.series plan.shape e ∧
      expressionsUnder query "x" = [e.sql] ∧ expressionsUnder query "series" = [e.sql] ∧
      expressionsUnder query "fx" = request.encoding.x.map quoteName ∧
      request.encoding.x.length ≤ 1 ∧
      ∀ value : String → Cell, ∃ cell, cellsUnder query value "x" = [cell] ∧
        cellsUnder query value "series" = [cell] := by
  intro plan
  obtain ⟨-, placed⟩ := Request.validate_ok valid
  have under := Reshape.expressionsUnder_body placed.items_ne_nil source
  obtain ⟨e, series, form⟩ := Reshape.exists_seriesForm placed grouped
  have x : plan.expression? .x = some e := (Reshape.expression?_x_of_isGrouped grouped).trans series
  obtain ⟨fx, single⟩ := Reshape.expression?_fx_of_isGrouped placed grouped
  have written : ((some e).map Expression.sql).toList = [e.sql] := rfl
  have underX := (under .x).trans (x ▸ written)
  have underSeries := (under .series).trans (series ▸ written)
  have underFx := (under .fx).trans (fx ▸ Expression.sql_ofColumns? single)
  exact ⟨Reshape.shape_plan mark request.encoding, _, e, plan.sql_of_solid solid destination,
    form, underX, underSeries, underFx, single, fun value => ⟨value e.sql,
      congrArg (List.map value) underX, congrArg (List.map value) underSeries⟩⟩

def sectorBars : Request where
  table := "stocks"
  mark := some .barYGrouped
  encoding :=
    { Encoding.empty with
      x := ["Sector"], y := ["Open", "Close"], series := ["Market", "Board"] }

theorem sectorBars_share_series :
    let plan := Reshape.plan .barYGrouped sectorBars.encoding
    sectorBars.validate = .ok .barYGrouped ∧ Mark.barYGrouped.isGrouped ∧
      Text.isBlank (quoteName "stocks") = false ∧ plan.shape = .unpivotWithSeries ∧
      ∃ query, plan.sql (quoteName "stocks") (quoteName "d") =
          .ok (Select.creation (quoteName "d") ++ query) ∧
        expressionsUnder query "x" = ["concat_ws('-', \"__sqlchart_key__\", " ++
          "CAST(\"Market\" AS VARCHAR), CAST(\"Board\" AS VARCHAR))"] ∧
        expressionsUnder query "x" = expressionsUnder query "series" ∧
        expressionsUnder query "fx" = [quoteName "Sector"] := by
  intro plan
  have valid : sectorBars.validate = .ok .barYGrouped := rfl
  have solid := (firm_quoteName "stocks").isBlank_eq
  obtain ⟨shape, query, e, made, form, x, series, fx, -⟩ :=
    grouped_bars_share_series valid rfl solid (quoteName "d")
  have turned : plan.shape = .unpivotWithSeries := rfl
  rw [turned] at form
  obtain ⟨-⟩ := form
  refine ⟨valid, rfl, solid, turned, query, made, x.trans ?_, x.trans series.symm, fx⟩
  decide +kernel

end ChartQuery
