import ChartQuery.Plan.AxisLabels
import ChartQuery.Proofs.Plan.GroupingKey
import ChartQuery.Proofs.Sql.LexicalSafety

/-!
# Labels and fields

The labels of a chart are inferred from the columns of the roles, and the fields of the
reshaped table come from the select list. Both follow the plan, each by rules of its own.
There is a label for y or for the series exactly if the table has the field. A label for x
is there exactly if the table has the field x or the horizontal facet, with one exception:
grouped bars without a category and a series that rotate their values have the names of
the rotated columns along x, and x gets no label.

Main statement: `labels_match_fields`.
-/

namespace ChartQuery

open SelectList

namespace Reshape

variable {mark : Mark} {encoding : Encoding} {role : Role}

theorem values_of_rotates (rotates : (Reshape.plan mark encoding).shape.rotates) :
    (Reshape.plan mark encoding).encoding.get mark.valueAxis ≠ [] := by
  have several := (rotates_plan mark encoding).1 rotates
  rw [← transpose_valueAxis] at several
  exact List.ne_nil_of_length_pos (Nat.zero_lt_of_lt several)

/-- Roles that a rotation does not make from the key have a field if they have columns.
The value axis is one of them. -/
theorem mem_roles_plan (unkeyed : ¬(role = .series ∨ role = .x ∧ mark.isGrouped)) :
    role ∈ (Reshape.plan mark encoding).roles ↔
      (Reshape.plan mark encoding).encoding.get role ≠ [] := by
  by_cases turned : (Reshape.plan mark encoding).shape.rotates ∧ role = mark.valueAxis
  · obtain ⟨rotates, rfl⟩ := turned
    have values := values_of_rotates rotates
    exact iff_of_true (mem_roles_of_columns values) values
  · exact mem_roles_own fun rotates => ⟨fun value => turned ⟨rotates, value⟩, unkeyed⟩

/-- A rotated table has a series in any case. -/
theorem mem_roles_series : .series ∈ (Reshape.plan mark encoding).roles ↔
    (Reshape.plan mark encoding).shape.rotates ∨
      (Reshape.plan mark encoding).encoding.get .series ≠ [] := by
  by_cases rotates : (Reshape.plan mark encoding).shape.rotates
  · refine iff_of_true ?_ (.inl rotates)
    rw [mem_roles_iff, fieldColumns?_series rotates]
    simp
  · rw [or_iff_right rotates]
    exact mem_roles_own fun turns => absurd turns rotates

/-- Along x there is a field if there are columns for it, or if grouped bars rotate their
values. -/
theorem mem_roles_x : .x ∈ (Reshape.plan mark encoding).roles ↔
    (Reshape.plan mark encoding).encoding.get .x ≠ [] ∨
      (Reshape.plan mark encoding).shape.rotates ∧ mark.isGrouped := by
  by_cases grouped : mark.isGrouped
  · have x : mark.categoryAxis = .x := by cases mark <;> first | rfl | cases grouped
    rw [← x]
    exact mem_roles_categoryAxis
  · rw [or_iff_left fun keyed => grouped keyed.2]
    exact mem_roles_plan (by simp [grouped])

/-- Only grouped bars can rotate their values and have no columns for x or the facet: they
have neither a category nor a series. -/
theorem keyless_iff :
    (((Reshape.plan mark encoding).shape.rotates ∧ mark.isGrouped) ∧
        (Reshape.plan mark encoding).encoding.get .x = [] ∧
        (Reshape.plan mark encoding).encoding.get .fx = []) ↔
      mark.isGrouped ∧ 1 < (encoding.get mark.valueAxis).length ∧
        encoding.x = [] ∧ encoding.series = [] := by
  rw [rotates_plan, and_comm (b := mark.isGrouped = true), and_assoc]
  refine and_congr_right fun grouped => and_congr_right fun _ => ?_
  obtain ⟨-, facet⟩ := get_plan_of_isGrouped grouped encoding
  rw [get_plan_x grouped, facet, and_comm]
  change _ ∧ (transpose mark encoding).series = [] ↔ _
  rw [transpose_of_isGrouped grouped]

theorem exists_sql {plan : Reshape} (some : plan.items ≠ []) {source : String}
    (solid : Text.isBlank source = false) (destination : String) :
    ∃ query, plan.sql source destination = .ok (Select.creation destination ++ query) ∧
      columns? query = .some (plan.roles.map Role.field) := by
  exact ⟨_, plan.sql_of_solid solid destination,
    columns?_of_sql some (Select.sql_eq _ rfl (plan.isBlank_sourceSql solid))⟩

end Reshape

namespace Labels

theorem isSome_ofColumns? {columns : List String} : (ofColumns? columns).isSome ↔ columns ≠ [] := by
  unfold ofColumns?
  split <;> simp_all

/-- The words of an aggregate stand before a label that is there. -/
theorem isSome_withAggregate (mark : Mark) (aggregate : Option Aggregate) (labels : Labels) :
    (withAggregate mark aggregate labels).x.isSome = labels.x.isSome ∧
      (withAggregate mark aggregate labels).y.isSome = labels.y.isSome ∧
      (withAggregate mark aggregate labels).series = labels.series := by
  cases aggregate with
  | none => simp [withAggregate]
  | some f =>
    cases across : mark.isHorizontal <;> simp [withAggregate, across]

/-- Which labels are inferred depends on the columns alone, and not on the aggregate. -/
theorem isSome_infer (mark : Mark) (encoding : Encoding) (shape : Shape)
    (aggregate : Option Aggregate) :
    let labels := infer mark encoding shape aggregate {}
    (labels.x.isSome ↔ encoding.get .x ≠ [] ∨ encoding.get .fx ≠ []) ∧
      (labels.y.isSome ↔ encoding.get .y ≠ []) ∧
      (labels.series.isSome ↔ seriesColumns mark encoding shape ≠ []) := by
  intro labels
  have same := isSome_withAggregate mark aggregate
    { x := ofColumns? (if Encoding.isSet encoding .fx then encoding.fx else encoding.x)
      y := ofColumns? encoding.y
      series := ofColumns? (seriesColumns mark encoding shape) }
  obtain ⟨x, y, series⟩ := same
  simp only [labels, infer, orElse, Option.none_or, x, y, series, isSome_ofColumns?]
  refine ⟨?_, Iff.rfl, trivial⟩
  split
  · rename_i facet
    have columns := Encoding.isSet_iff.1 facet
    exact iff_of_true columns (.inr columns)
  · rename_i facet
    rw [or_iff_left fun columns => facet (Encoding.isSet_iff.2 columns)]
    rfl

theorem seriesColumns_plan (mark : Mark) (encoding : Encoding) :
    seriesColumns mark (Reshape.plan mark encoding).encoding (Reshape.plan mark encoding).shape ≠
        [] ↔
      (Reshape.plan mark encoding).shape.rotates ∨
        (Reshape.plan mark encoding).encoding.get .series ≠ [] := by
  have values (rotates : (Reshape.plan mark encoding).shape.rotates) :=
    Reshape.values_of_rotates rotates
  generalize Reshape.plan mark encoding = plan at values
  by_cases rotates : plan.shape.rotates
  · refine iff_of_true ?_ (.inl rotates)
    cases shape : plan.shape with
    | standard => simp [shape, Shape.rotates] at rotates
    | unpivot => exact values rotates
    | unpivotWithSeries => simp [seriesColumns, values rotates]
  · have shape : plan.shape = .standard := by simpa [Shape.rotates] using rotates
    rw [or_iff_right rotates, shape]
    rfl

end Labels

/-- For a valid request without labels of its own, a label for y or for the series is
inferred exactly if the reshaped table has the field, and a label for x exactly if it has
the field x or the facet, unless grouped bars rotate their values and have neither a
category nor a series. -/
theorem labels_match_fields {request : Request} {mark : Mark} {source : String}
    (valid : request.validate = .ok mark) (unlabelled : request.labels = {})
    (solid : Text.isBlank source = false) (destination : String) (aggregate : Option Aggregate) :
    let plan := Reshape.plan mark request.encoding
    let labels := Labels.infer mark plan.encoding plan.shape aggregate request.labels
    ∃ query fields, plan.sql source destination = .ok (Select.creation destination ++ query) ∧
      columns? query = some fields ∧
      (labels.y.isSome ↔ Role.y.field ∈ fields) ∧
      (labels.series.isSome ↔ Role.series.field ∈ fields) ∧
      ((labels.x.isSome ↔ Role.x.field ∈ fields ∨ Role.fx.field ∈ fields) ↔
        ¬(mark.isGrouped ∧ 1 < (request.encoding.get mark.valueAxis).length ∧
          request.encoding.x = [] ∧ request.encoding.series = [])) := by
  intro plan labels
  obtain ⟨-, placed⟩ := Request.validate_ok valid
  obtain ⟨query, made, listed⟩ := Reshape.exists_sql placed.items_ne_nil solid destination
  obtain ⟨x, y, series⟩ := Labels.isSome_infer mark plan.encoding plan.shape aggregate
  rw [← unlabelled] at x y series
  refine ⟨query, _, made, listed, ?_, ?_, ?_⟩
  · rw [Reshape.field_mem_iff, Reshape.mem_roles_plan (by simp)]
    exact y
  · rw [Reshape.field_mem_iff, Reshape.mem_roles_series, ← Labels.seriesColumns_plan]
    exact series
  · rw [Reshape.field_mem_iff, Reshape.field_mem_iff, Reshape.mem_roles_x, Reshape.mem_roles_fx]
    rw [← Reshape.keyless_iff, x]
    grind

/-- With a series along x there is a label for each of the fields. -/
theorem seriesBars_have_labels :
    let plan := Reshape.plan .barYGrouped seriesBars.encoding
    let labels := Labels.infer .barYGrouped plan.encoding plan.shape none seriesBars.labels
    seriesBars.validate = .ok .barYGrouped ∧ seriesBars.labels = {} ∧
      Text.isBlank (quoteName "stocks") = false ∧
      ∃ query fields, plan.sql (quoteName "stocks") (quoteName "d") =
          .ok (Select.creation (quoteName "d") ++ query) ∧
        columns? query = some fields ∧ (labels.y.isSome ∧ "y" ∈ fields) ∧
        (labels.series.isSome ∧ "series" ∈ fields) ∧
        (labels.x.isSome ∧ ("x" ∈ fields ∨ "fx" ∈ fields)) := by
  intro plan labels
  have valid : seriesBars.validate = .ok .barYGrouped := rfl
  have solid := (firm_quoteName "stocks").isBlank_eq
  obtain ⟨query, fields, made, listed, y, series, x⟩ :=
    labels_match_fields valid rfl solid (quoteName "d") none
  exact ⟨valid, rfl, solid, query, fields, made, listed, ⟨rfl, y.1 rfl⟩, ⟨rfl, series.1 rfl⟩,
    rfl, (x.2 (by decide)).1 rfl⟩

/-- The names of the prices stand along x, and whatever is chosen, there is no label for them. -/
theorem keylessBars_lack_label :
    let plan := Reshape.plan .barYGrouped keylessBars.encoding
    keylessBars.validate = .ok .barYGrouped ∧ keylessBars.labels = {} ∧
      (∃ query, plan.sql (quoteName "stocks") (quoteName "d") =
          .ok (Select.creation (quoteName "d") ++ query) ∧
        columns? query = some ["x", "y", "series"]) ∧
      ∀ aggregate, (Labels.infer .barYGrouped plan.encoding plan.shape aggregate
        keylessBars.labels).x = none := by
  intro plan
  have solid := (firm_quoteName "stocks").isBlank_eq
  refine ⟨rfl, rfl, Reshape.exists_sql (by decide) solid (quoteName "d"), fun aggregate => ?_⟩
  cases aggregate <;> rfl

end ChartQuery
