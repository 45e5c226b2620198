import ChartQuery.Plan.Reshape
import ChartQuery.Request.Validation

/-!
# The roles of a plan

The reshaped table has the field of a role if the role has a column, and the plan
of a valid request has at least one role. The columns from which a role is made
are those of the encoding, with the generated key in front of a rotated series.
-/

namespace ChartQuery

namespace Request

theorem bind_eq_ok {α β : Type} {first : Except Error α} {rest : α → Except Error β} {b : β}
    (h : (first >>= rest) = .ok b) : ∃ a, first = .ok a ∧ rest a = .ok b := by
  cases first with
  | error e => cases h
  | ok a => exact ⟨a, rfl, h⟩

theorem require_eq_ok {holds : Bool} {fault : ConfigurationFault} :
    require holds fault = .ok () ↔ holds = true := by
  cases holds <;> simp [require]

/-- What the rules say about the encoding of a valid request. -/
structure WellPlaced (mark : Mark) (encoding : Encoding) : Prop where
  some : Encoding.isEmpty encoding = false
  x : encoding.x.length ≤ 1 ∨ mark.isHorizontal
  y : encoding.y.length ≤ 1 ∨ mark.isHorizontal = false
  r : encoding.r.length ≤ 1
  series : mark.isGrouped →
    1 < (encoding.get mark.valueAxis).length ∨ Encoding.isSet encoding .series
  facet : mark.isGrouped → encoding.fx = []

theorem validateEncoding_ok {mark : Mark} {encoding : Encoding}
    (h : validateEncoding mark encoding = .ok ()) : WellPlaced mark encoding := by
  obtain ⟨_, some, h⟩ := bind_eq_ok h
  obtain ⟨_, x, h⟩ := bind_eq_ok h
  obtain ⟨_, y, h⟩ := bind_eq_ok h
  obtain ⟨_, r, h⟩ := bind_eq_ok h
  constructor
  · simpa using require_eq_ok.1 some
  · simpa using require_eq_ok.1 x
  · simpa using require_eq_ok.1 y
  · simpa using require_eq_ok.1 r
  · intro grouped
    rw [if_pos grouped] at h
    obtain ⟨_, series, -⟩ := bind_eq_ok h
    simpa using require_eq_ok.1 series
  · intro grouped
    rw [if_pos grouped] at h
    obtain ⟨_, -, facet⟩ := bind_eq_ok h
    simpa [Encoding.isSet, PerRole.get] using require_eq_ok.1 facet

theorem validate_ok {request : Request} {mark : Mark} (h : request.validate = .ok mark) :
    request.mark = some mark ∧ WellPlaced mark request.encoding := by
  unfold validate at h
  cases given : request.mark with
  | none => simp [given] at h
  | some other =>
    simp only [given] at h
    obtain ⟨_, -, h⟩ := bind_eq_ok h
    obtain ⟨_, placed, same⟩ := bind_eq_ok h
    cases same
    exact ⟨rfl, validateEncoding_ok placed⟩

end Request

/-- The column that an operand refers to. -/
def Operand.name : Operand → String
  | column name => name
  | key => Names.key
  | value => Names.value

namespace Expression

def names (e : Expression) : List String := e.operands.map Operand.name

theorem names_ofColumns? (columns : List String) :
    (ofColumns? columns).map names = if columns.isEmpty then none else some columns := by
  match columns with
  | [] => rfl
  | [name] => rfl
  | a :: b :: rest => simp [ofColumns?, names, operands, Operand.name, Function.comp_def]

end Expression

namespace Reshape

variable {plan : Reshape} {role : Role}

theorem transpose_of_isGrouped {mark : Mark} (grouped : mark.isGrouped) (encoding : Encoding) :
    transpose mark encoding = { encoding with x := encoding.series, fx := encoding.x } :=
  if_pos grouped

theorem get_plan_x {mark : Mark} (grouped : mark.isGrouped) (encoding : Encoding) :
    (Reshape.plan mark encoding).encoding.get .x =
      (Reshape.plan mark encoding).encoding.get .series := by
  change (transpose mark encoding).get .x = (transpose mark encoding).get .series
  rw [transpose_of_isGrouped grouped]
  rfl

theorem mem_items {e : Expression} : (role, e) ∈ plan.items ↔ plan.expression? role = some e := by
  simp only [items, List.mem_filterMap, Option.map_eq_some_iff, Prod.mk.injEq]
  constructor
  · rintro ⟨other, -, found, made, rfl, rfl⟩
    exact made
  · intro made
    exact ⟨role, role.mem_all, e, made, rfl, rfl⟩

theorem mem_roles : role ∈ plan.roles ↔ ∃ e, plan.expression? role = some e := by
  simp only [roles, List.mem_map, Prod.exists, exists_and_right, exists_eq_right, mem_items]

theorem roles_eq_filter (plan : Reshape) :
    plan.roles = Role.all.filter fun role => (plan.expression? role).isSome := by
  unfold roles items
  induction Role.all with
  | nil => rfl
  | cons role rest ih =>
    cases made : plan.expression? role <;> simpa [made] using ih

/-- Roles that are neither rotated nor made from the key have an expression of their own
columns. -/
theorem expression?_own (other : plan.shape.rotates → role ≠ plan.mark.valueAxis ∧
      ¬(role = .series ∨ role = .x ∧ plan.mark.isGrouped)) :
    plan.expression? role = Expression.ofColumns? (plan.encoding.get role) := by
  unfold expression?
  split
  · rename_i rotates
    rw [if_neg (other rotates).1, if_neg (other rotates).2]
  · rfl

/-- The values of a rotation are one column. -/
theorem expression?_value (rotates : plan.shape.rotates) :
    plan.expression? plan.mark.valueAxis = some (.single .value) := by
  rw [expression?, if_pos rotates, if_pos rfl]

/-- No mark has its series along the axis of the values. -/
theorem expression?_series (plan : Reshape) : plan.expression? .series =
    if plan.shape.rotates then some plan.rotatedSeries
    else Expression.ofColumns? plan.encoding.series := by
  have other : .series ≠ plan.mark.valueAxis := by cases plan.mark <;> decide
  have own : Role.series = .series ∨ Role.series = .x ∧ plan.mark.isGrouped := .inl rfl
  rw [expression?, if_neg other, if_pos own]
  rfl

theorem names_rotatedSeries (plan : Reshape) :
    plan.rotatedSeries.names = Names.key :: plan.encoding.series := by
  unfold rotatedSeries
  cases plan.encoding.series <;>
    simp [Expression.names, Expression.operands, Operand.name, Function.comp_def]

/-- The columns that the field of a role is made from, if the table has it. -/
def fieldColumns? (plan : Reshape) (role : Role) : Option (List String) :=
  (plan.expression? role).map Expression.names

theorem fieldColumns?_eq (plan : Reshape) (role : Role) :
    plan.fieldColumns? role =
      if plan.shape.rotates ∧ role = plan.mark.valueAxis then some [Names.value]
      else if plan.shape.rotates ∧ (role = .series ∨ role = .x ∧ plan.mark.isGrouped) then
        some (Names.key :: plan.encoding.series)
      else if (plan.encoding.get role).isEmpty then none
      else some (plan.encoding.get role) := by
  unfold fieldColumns? expression?
  by_cases rotates : plan.shape.rotates
  · by_cases value : role = plan.mark.valueAxis
    · simp [rotates, value, Expression.names, Expression.operands, Operand.name]
    · by_cases series : role = .series ∨ role = .x ∧ plan.mark.isGrouped
      · simp [rotates, value, series, names_rotatedSeries]
      · simp only [rotates, value, series, if_true, if_false, true_and,
          Expression.names_ofColumns?]
  · simp only [rotates, Bool.false_eq_true, if_false, false_and, Expression.names_ofColumns?]

theorem fieldColumns?_series (rotates : plan.shape.rotates) :
    plan.fieldColumns? .series = some (Names.key :: plan.encoding.get .series) := by
  have other : .series ≠ plan.mark.valueAxis := by cases plan.mark <;> decide
  rw [fieldColumns?_eq, if_neg (fun value => other value.2), if_pos ⟨rotates, .inl rfl⟩]
  rfl

theorem fieldColumns?_own (other : plan.shape.rotates → role ≠ plan.mark.valueAxis ∧
      ¬(role = .series ∨ role = .x ∧ plan.mark.isGrouped)) :
    plan.fieldColumns? role =
      if (plan.encoding.get role).isEmpty then none else some (plan.encoding.get role) := by
  rw [fieldColumns?_eq, if_neg fun value => (other value.1).1 value.2,
    if_neg fun series => (other series.1).2 series.2]

theorem mem_roles_iff : role ∈ plan.roles ↔ plan.fieldColumns? role ≠ none := by
  rw [mem_roles, fieldColumns?, ne_eq, Option.map_eq_none_iff, ← ne_eq,
    Option.ne_none_iff_exists']

/-- A role that has columns has a field. -/
theorem mem_roles_of_columns (h : plan.encoding.get role ≠ []) : role ∈ plan.roles := by
  rw [mem_roles_iff, fieldColumns?_eq]
  split
  · simp
  · split <;> simp [h]

end Reshape

theorem Mark.valueAxis_of_isGrouped {mark : Mark} (h : mark.isGrouped) : mark.valueAxis = .y := by
  cases mark <;> first | rfl | cases h

theorem Reshape.transpose_valueAxis (mark : Mark) (encoding : Encoding) :
    (transpose mark encoding).get mark.valueAxis = encoding.get mark.valueAxis := by
  by_cases grouped : mark.isGrouped
  · rw [transpose_of_isGrouped grouped, Mark.valueAxis_of_isGrouped grouped]
    rfl
  · rw [transpose, if_neg grouped]

theorem Encoding.exists_columns {encoding : Encoding} (h : Encoding.isEmpty encoding = false) :
    ∃ role, encoding.get role ≠ [] := by
  simp only [Encoding.isEmpty, Encoding.definedRoles, Encoding.isSet, List.isEmpty_eq_false_iff,
    ne_eq, List.filter_eq_nil_iff] at h
  simpa [Role.mem_all] using h

theorem Request.WellPlaced.items_ne_nil {mark : Mark} {encoding : Encoding}
    (h : WellPlaced mark encoding) : (Reshape.plan mark encoding).items ≠ [] := by
  obtain ⟨role, columns⟩ : ∃ role, (Reshape.plan mark encoding).encoding.get role ≠ [] := by
    by_cases grouped : mark.isGrouped
    · change ∃ role, (Reshape.transpose mark encoding).get role ≠ []
      rw [Reshape.transpose_of_isGrouped grouped]
      rcases h.series grouped with several | series
      · rw [Mark.valueAxis_of_isGrouped grouped] at several
        exact ⟨.y, List.ne_nil_of_length_pos (Nat.lt_trans Nat.zero_lt_one several)⟩
      · exact ⟨.series, by simpa [Encoding.isSet, PerRole.get] using series⟩
    · have same : (Reshape.plan mark encoding).encoding = encoding := if_neg grouped
      rw [same]
      exact Encoding.exists_columns h.some
  intro none
  have := Reshape.mem_roles_of_columns columns
  simp [Reshape.roles, none] at this

end ChartQuery
