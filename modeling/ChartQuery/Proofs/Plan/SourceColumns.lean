import ChartQuery.Proofs.Plan.Roles

/-!
# The columns of the source that a plan uses

An item of the select list refers to columns of the source, or to one of the two
columns that a rotation generates. Whatever grouped bars trade and whatever is
rotated, the columns of the source that are referred to are those that the encoding
names (`Reshape.mem_sourceColumns`): a rotation takes the columns of the value axis,
and every other role is made from its own.
-/

namespace ChartQuery

/-- The column of the source that an operand refers to. A generated column is none,
even if a column of the source has the same name. -/
def Operand.column? : Operand → Option String
  | column name => some name
  | key => none
  | value => none

theorem Role.exists_iff (axis : Role) {P : Role → Prop} :
    (∃ role, P role) ↔ P axis ∨ ∃ role, role ≠ axis ∧ P role := by
  constructor
  · rintro ⟨role, h⟩
    by_cases same : role = axis
    · exact .inl (same ▸ h)
    · exact .inr ⟨role, same, h⟩
  · rintro (h | ⟨role, -, h⟩)
    · exact ⟨axis, h⟩
    · exact ⟨role, h⟩

namespace Expression

def sourceColumns (e : Expression) : List String := e.operands.filterMap Operand.column?

@[simp] theorem sourceColumns_value : (single .value).sourceColumns = [] := rfl

theorem filterMap_column? (names : List String) :
    (names.map Operand.column).filterMap Operand.column? = names := by
  rw [List.filterMap_map]
  exact List.filterMap_some

theorem mem_sourceColumns_ofColumns? {columns : List String} {name : String} :
    (∃ e, ofColumns? columns = some e ∧ name ∈ e.sourceColumns) ↔ name ∈ columns := by
  match columns with
  | [] => simp [ofColumns?]
  | [a] => simp [ofColumns?, sourceColumns, operands, Operand.column?, eq_comm]
  | a :: b :: rest =>
    simp only [ofColumns?, Option.some.injEq, exists_eq_left', sourceColumns, operands,
      filterMap_column?]

end Expression

namespace Reshape

/-- The columns of the source that a statement for the reshaped table refers to: in the
items of its select list, and in the list of the columns that are rotated. -/
def sourceColumns (plan : Reshape) : List String :=
  plan.items.flatMap (fun item => item.2.sourceColumns) ++ plan.rotated

variable {plan : Reshape} {role : Role} {name : String}

theorem sourceColumns_rotatedSeries (plan : Reshape) :
    plan.rotatedSeries.sourceColumns = plan.encoding.series := by
  unfold rotatedSeries
  split
  · rename_i none
    exact (List.isEmpty_iff.1 none).symm
  · exact Expression.filterMap_column? plan.encoding.series

/-- The item of a role refers to a column. -/
def Uses (plan : Reshape) (role : Role) (name : String) : Prop :=
  ∃ e, (role, e) ∈ plan.items ∧ name ∈ e.sourceColumns

theorem mem_sourceColumns_iff_uses :
    name ∈ plan.sourceColumns ↔ (∃ role, plan.Uses role name) ∨ name ∈ plan.rotated := by
  simp [sourceColumns, Uses]

/-- A value that is rotated stands in a generated column. -/
theorem not_uses_rotated (rotates : plan.shape.rotates) : ¬plan.Uses plan.mark.valueAxis name := by
  rintro ⟨e, item, mem⟩
  rw [mem_items, expression?_value rotates] at item
  cases item
  simp at mem

theorem uses_rotatedSeries (rotates : plan.shape.rotates) (other : role ≠ plan.mark.valueAxis)
    (keyed : role = .series ∨ role = .x ∧ plan.mark.isGrouped) :
    plan.Uses role name ↔ name ∈ plan.encoding.series := by
  simp only [Uses, mem_items, expression?, if_pos rotates, if_neg other, if_pos keyed,
    Option.some.injEq, exists_eq_left', sourceColumns_rotatedSeries]

theorem uses_own (other : plan.shape.rotates → role ≠ plan.mark.valueAxis ∧
      ¬(role = .series ∨ role = .x ∧ plan.mark.isGrouped)) :
    plan.Uses role name ↔ name ∈ plan.encoding.get role := by
  simp only [Uses, mem_items, expression?_own other, Expression.mem_sourceColumns_ofColumns?]

section Plan

variable {mark : Mark} {encoding : Encoding}

/-- Every role is made from its own columns, but for values that are rotated. Along x
grouped bars have the columns of their series, so the key that joins them loses none. -/
theorem uses_plan : (Reshape.plan mark encoding).Uses role name ↔
    ¬((Reshape.plan mark encoding).shape.rotates ∧ role = mark.valueAxis) ∧
      name ∈ (transpose mark encoding).get role := by
  by_cases rotates : (Reshape.plan mark encoding).shape.rotates
  · by_cases value : role = mark.valueAxis
    · have none : ¬(Reshape.plan mark encoding).Uses mark.valueAxis name := not_uses_rotated rotates
      subst value
      exact ⟨fun uses => absurd uses none, fun h => absurd ⟨rotates, rfl⟩ h.1⟩
    · rw [and_iff_right (fun h => value h.2)]
      by_cases keyed : role = .series ∨ role = .x ∧ mark.isGrouped
      · rw [uses_rotatedSeries rotates value keyed]
        rcases keyed with rfl | ⟨rfl, grouped⟩
        · rfl
        · exact Eq.to_iff (congrArg (name ∈ ·) (get_plan_x grouped encoding).symm)
      · exact uses_own fun _ => ⟨value, keyed⟩
  · rw [and_iff_right (fun h => rotates h.1)]
    exact uses_own fun h => absurd h rotates

theorem rotated_plan : (Reshape.plan mark encoding).rotated =
    if (Reshape.plan mark encoding).shape.rotates then (transpose mark encoding).get mark.valueAxis
    else [] := rfl

/-- What grouped bars trade stays off the axis of the values, and nothing is lost by it
if the facet was free. -/
theorem mem_transpose (facet : mark.isGrouped → encoding.fx = []) :
    (∃ role, role ≠ mark.valueAxis ∧ name ∈ (transpose mark encoding).get role) ↔
      ∃ role, role ≠ mark.valueAxis ∧ name ∈ encoding.get role := by
  by_cases grouped : mark.isGrouped
  · rw [transpose_of_isGrouped grouped, Mark.valueAxis_of_isGrouped grouped]
    constructor
    · rintro ⟨role, other, mem⟩
      cases role with
      | x => exact ⟨.series, by decide, mem⟩
      | fx => exact ⟨.x, by decide, mem⟩
      | y => exact absurd rfl other
      | series | fy | r | text => exact ⟨_, other, mem⟩
    · rintro ⟨role, other, mem⟩
      cases role with
      | x => exact ⟨.fx, by decide, mem⟩
      | fx => simp [PerRole.get, facet grouped] at mem
      | y => exact absurd rfl other
      | series | fy | r | text => exact ⟨_, other, mem⟩
  · rw [transpose, if_neg grouped]

end Plan

end Reshape

theorem Encoding.mem_columns {encoding : Encoding} {name : String} :
    name ∈ Encoding.columns encoding ↔ ∃ role, name ∈ encoding.get role := by
  simp [Encoding.columns, List.mem_eraseDups, Role.mem_all]

/-- A statement for the reshaped table refers to the columns that the encoding names, and
to no others. -/
theorem Reshape.mem_sourceColumns {mark : Mark} {encoding : Encoding} {name : String}
    (facet : mark.isGrouped → encoding.fx = []) :
    name ∈ (Reshape.plan mark encoding).sourceColumns ↔ name ∈ Encoding.columns encoding := by
  have others : (∃ role, role ≠ mark.valueAxis ∧ name ∈ (transpose mark encoding).get role) ↔
      ∃ role, role ≠ mark.valueAxis ∧ name ∈ encoding.get role := mem_transpose facet
  have value := transpose_valueAxis mark encoding
  rw [mem_sourceColumns_iff_uses, Encoding.mem_columns, rotated_plan]
  rw [Role.exists_iff mark.valueAxis (P := fun role => name ∈ encoding.get role), ← others, ← value]
  simp only [uses_plan]
  by_cases rotates : (Reshape.plan mark encoding).shape.rotates
  · simp [rotates, or_comm]
  · simp [rotates, Role.exists_iff mark.valueAxis
      (P := fun role => name ∈ (transpose mark encoding).get role)]

end ChartQuery
