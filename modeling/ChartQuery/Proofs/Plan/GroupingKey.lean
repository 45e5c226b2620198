import ChartQuery.Proofs.Plan.Items

/-!
# Something to group by

Whether there is something to group by is decided on the columns of the roles, and the
groups are the fields of the reshaped table. A role with columns has a field, so a key
is never without its field. The converse fails in one place: if grouped bars rotate
their values and have neither a category nor a series, the names of the rotated columns
alone stand along x. The table has that field, and no role has a column for it.

Main statement: `grouping_key_agrees_iff`.
-/

namespace ChartQuery

open SelectList

theorem Encoding.isSet_iff {encoding : Encoding} {role : Role} :
    Encoding.isSet encoding role = true ↔ encoding.get role ≠ [] := by
  simp [Encoding.isSet]

namespace Aggregation

variable {mark : Mark} {encoding : Encoding}

/-- Marks that aggregate by themselves have axes, and group by nothing else. -/
theorem hasGroupingKey_iff (allowed : mark.allowsAggregation) :
    hasGroupingKey mark encoding = true ↔
      encoding.get mark.categoryAxis ≠ [] ∨ encoding.get .fx ≠ [] := by
  have axes : mark.isRadial = false := by
    cases mark <;> simp_all [Mark.allowsAggregation, Mark.isRadial]
  simp [hasGroupingKey, axes, Encoding.isSet_iff]

theorem values_of_choose {distinct : Bool} {choice : Option Aggregate} {f : Aggregate}
    (chosen : choose mark encoding distinct choice = some f) :
    encoding.get mark.valueAxis ≠ [] := by
  simp only [choose] at chosen
  split at chosen
  · rename_i conditions
    exact Encoding.isSet_iff.1 (Bool.and_eq_true_iff.1 conditions).2
  · cases chosen

end Aggregation

namespace Reshape

variable {plan : Reshape} {role : Role}

theorem field_mem_iff : role.field ∈ plan.roles.map Role.field ↔ role ∈ plan.roles := by
  constructor
  · intro mem
    obtain ⟨other, mem, same⟩ := List.mem_map.1 mem
    exact Role.field_injective same ▸ mem
  · exact List.mem_map_of_mem

theorem columns?_of_sql {source query : String} (some : plan.items ≠ [])
    (made : (plan.query source).sql = .ok query) :
    columns? query = .some (plan.roles.map Role.field) := by
  have listed := columns?_query plan some source (Text.trim (plan.sourceSql source))
  rw [selectList_eq plan some, String.append_assoc, String.append_assoc,
    ← body_eq plan some source] at listed
  unfold Select.sql at made
  simp only [Reshape.query] at made
  split at made
  · cases made
  · rw [← Except.ok.inj made]
    exact listed

theorem mem_roles_own (other : plan.shape.rotates → role ≠ plan.mark.valueAxis ∧
      ¬(role = .series ∨ role = .x ∧ plan.mark.isGrouped)) :
    role ∈ plan.roles ↔ plan.encoding.get role ≠ [] := by
  rw [mem_roles_iff, fieldColumns?_own other]
  simp

theorem mem_roles_fx : .fx ∈ plan.roles ↔ plan.encoding.get .fx ≠ [] := by
  have value : .fx ≠ plan.mark.valueAxis := by cases plan.mark <;> decide
  exact mem_roles_own fun _ => ⟨value, by simp⟩

/-- The categories have a field if they have columns, and along x also if grouped bars
rotate their values. -/
theorem mem_roles_categoryAxis : plan.mark.categoryAxis ∈ plan.roles ↔
    plan.encoding.get plan.mark.categoryAxis ≠ [] ∨ plan.shape.rotates ∧ plan.mark.isGrouped := by
  have value := plan.mark.valueAxis_ne_categoryAxis.symm
  have series : plan.mark.categoryAxis ≠ .series := by cases plan.mark <;> decide
  by_cases keyed : plan.shape.rotates ∧ plan.mark.isGrouped
  · have x : plan.mark.categoryAxis = .x := by
      cases mark : plan.mark <;> simp_all [Mark.isGrouped, Mark.categoryAxis, Mark.isHorizontal]
    have field : plan.fieldColumns? plan.mark.categoryAxis ≠ none := by
      rw [fieldColumns?_eq, if_neg fun h => value h.2, if_pos ⟨keyed.1, .inr ⟨x, keyed.2⟩⟩]
      simp
    exact iff_of_true (mem_roles_iff.2 field) (.inr keyed)
  · rw [or_iff_left keyed]
    refine mem_roles_own fun rotates => ⟨value, ?_⟩
    rintro (same | ⟨-, grouped⟩)
    · exact series same
    · exact keyed ⟨rotates, grouped⟩

/-- A plan rotates if the value axis has several columns. -/
theorem rotates_plan (mark : Mark) (encoding : Encoding) :
    (Reshape.plan mark encoding).shape.rotates ↔ 1 < (encoding.get mark.valueAxis).length := by
  simp only [Reshape.plan, Shape.classify, transpose_valueAxis, Shape.rotates]
  split
  · simp
    omega
  · split <;> simp <;> omega

/-- Grouped bars have their series along x, and what was there on the facet. -/
theorem get_plan_of_isGrouped {mark : Mark} (grouped : mark.isGrouped) (encoding : Encoding) :
    (Reshape.plan mark encoding).encoding.get mark.categoryAxis = encoding.series ∧
      (Reshape.plan mark encoding).encoding.get .fx = encoding.x := by
  have x : mark.categoryAxis = .x := by cases mark <;> first | rfl | cases grouped
  rw [x]
  change (transpose mark encoding).get .x = _ ∧ (transpose mark encoding).get .fx = _
  rw [transpose_of_isGrouped grouped]
  exact ⟨rfl, rfl⟩

end Reshape

/-- For marks that aggregate by themselves there is something to group by exactly if the
reshaped table has a field for the categories or the facet, unless grouped bars rotate
their values and have neither a category nor a series. -/
theorem grouping_key_agrees_iff {request : Request} {mark : Mark} {source query : String}
    (valid : request.validate = .ok mark) (allowed : mark.allowsAggregation)
    (made : ((Reshape.plan mark request.encoding).query source).sql = .ok query) :
    (Aggregation.hasGroupingKey mark (Reshape.plan mark request.encoding).encoding = true ↔
      ∃ fields, columns? query = some fields ∧
        (mark.categoryAxis.field ∈ fields ∨ Role.fx.field ∈ fields)) ↔
    ¬(mark.isGrouped ∧ 1 < (request.encoding.get mark.valueAxis).length ∧
      request.encoding.x = [] ∧ request.encoding.series = []) := by
  obtain ⟨-, placed⟩ := Request.validate_ok valid
  have listed := Reshape.columns?_of_sql placed.items_ne_nil made
  have category : mark.categoryAxis ∈ (Reshape.plan mark request.encoding).roles ↔
      (Reshape.plan mark request.encoding).encoding.get mark.categoryAxis ≠ [] ∨
        (Reshape.plan mark request.encoding).shape.rotates ∧ mark.isGrouped :=
    Reshape.mem_roles_categoryAxis
  simp only [listed, Option.some.injEq, exists_eq_left', Reshape.field_mem_iff]
  rw [Aggregation.hasGroupingKey_iff allowed, category, Reshape.mem_roles_fx,
    Reshape.rotates_plan]
  by_cases grouped : mark.isGrouped
  · obtain ⟨series, facet⟩ := Reshape.get_plan_of_isGrouped grouped request.encoding
    rw [series, facet]
    by_cases several : 1 < (request.encoding.get mark.valueAxis).length <;>
      by_cases noSeries : request.encoding.series = [] <;>
        by_cases noX : request.encoding.x = [] <;> simp [grouped, several, noSeries, noX]
  · simp [grouped]

/-- Grouped bars of two prices, without a category or a series. -/
def keylessBars : Request where
  table := "stocks"
  mark := some .barYGrouped
  encoding := { Encoding.empty with y := ["Open", "Close"] }

def keylessQuery : String :=
  "SELECT \"__sqlchart_key__\" AS \"x\", \"__sqlchart_value__\" AS \"y\", " ++
    "\"__sqlchart_key__\" AS \"series\" FROM \"stocks\" UNPIVOT INCLUDE NULLS " ++
    "(\"__sqlchart_value__\" FOR \"__sqlchart_key__\" IN (\"Open\", \"Close\"))"

/-- The names of the prices stand along x, and nothing is found to group by. -/
theorem keylessBars_have_field_without_key :
    let plan := Reshape.plan .barYGrouped keylessBars.encoding
    keylessBars.validate = .ok .barYGrouped ∧ Mark.barYGrouped.allowsAggregation ∧
      (plan.query (quoteName "stocks")).sql = .ok keylessQuery ∧
      columns? keylessQuery = some ["x", "y", "series"] ∧
      Aggregation.hasGroupingKey .barYGrouped plan.encoding = false := by
  intro plan
  have text : "SELECT " ++ (plan.query (quoteName "stocks")).selectList ++ " FROM " ++
      plan.sourceSql (quoteName "stocks") = keylessQuery := by decide +kernel
  have made : (plan.query (quoteName "stocks")).sql = .ok keylessQuery := by
    rw [Reshape.sql_query plan (firm_quoteName "stocks"), text]
  exact ⟨rfl, rfl, made, Reshape.columns?_of_sql (by decide) made, rfl⟩

def seriesBars : Request :=
  { keylessBars with encoding := { keylessBars.encoding with series := ["Symbol"] } }

/-- With a series there is a key, and the field is there as well. -/
theorem seriesBars_have_key :
    let plan := Reshape.plan .barYGrouped seriesBars.encoding
    seriesBars.validate = .ok .barYGrouped ∧ Mark.barYGrouped.allowsAggregation ∧
      ∃ query, (plan.query (quoteName "stocks")).sql = .ok query ∧
        ∃ fields, columns? query = some fields ∧ ("x" ∈ fields ∨ "fx" ∈ fields) := by
  intro plan
  have valid : seriesBars.validate = .ok .barYGrouped := rfl
  have made := Reshape.sql_query plan (firm_quoteName "stocks")
  have agrees := (grouping_key_agrees_iff valid rfl made).2 (by decide)
  exact ⟨valid, rfl, _, made, agrees.1 rfl⟩

end ChartQuery
