import ChartQuery.Proofs.Plan.GroupingKey
import Mathlib.Data.List.Chain

/-!
# Expressions of fields

A select list gives each of its columns an expression and a name, with `AS` between them.
Read from the text of the statement, there stands under the field of a role what the plan
makes of the role, once, or nothing at all if it makes nothing (`expressionsUnder_body`).

The axes of a chart show values, and values that are joined to a text are lost to them. The
rules of a request let only the value axis have several columns, and a rotation brings these
into one. So an axis shows a column as it is, or the values of a rotation.

Main statement: `axis_values_stay_single`.
-/

namespace ChartQuery

open Token SelectList

namespace SelectList

def written (tokens : List Token) : String := String.ofList (tokens.flatMap Token.chars)

/-- The expression of an item that has the given name. -/
def expressionOf? (name : String) (item : List Token) : Option String :=
  (item.dropSuffix? (spell " AS " ++ [.quoted .name name])).map written

/-- The expressions that a query lists under a name. -/
def expressionsUnder (query name : String) : List String :=
  ((items? query).getD []).filterMap (expressionOf? name)

theorem expressionOf?_named (x : List Token) (name other : String) :
    expressionOf? other (x ++ (spell " AS " ++ [.quoted .name name])) =
      if name = other then some (written x) else none := by
  unfold expressionOf?
  split
  · rename_i same
    have dropped : (x ++ (spell " AS " ++ [Token.quoted .name name])).dropSuffix?
        (spell " AS " ++ [Token.quoted .name other]) = some x :=
      List.dropSuffix?_eq_some_iff.2 ⟨_, rfl, by simp [same]⟩
    rw [dropped, Option.map_some]
  · rename_i different
    rw [Option.map_eq_none_iff, Option.eq_none_iff_forall_ne_some]
    intro front dropped
    obtain ⟨ending, split, same⟩ := List.dropSuffix?_eq_some_iff.1 dropped
    rw [beq_iff_eq] at same
    have last := congrArg List.getLast? split
    simp only [same, ← List.append_assoc, List.getLast?_concat] at last
    exact different (by simpa using last)

end SelectList

theorem Expression.written_tokens (e : Expression) : written e.tokens = e.sql := by
  rw [written, ← e.isItem.scans.toList_eq, String.ofList_toList]

namespace Reshape

variable {plan : Reshape}

theorem expressionOf?_itemTokens (item : Role × Expression) (role : Role) :
    expressionOf? role.field (itemTokens item) =
      if item.1 = role then some item.2.sql else none := by
  rw [itemTokens, expressionOf?_named, item.2.written_tokens]
  by_cases same : item.1 = role
  · rw [if_pos same, if_pos (congrArg Role.field same)]
  · rw [if_neg same, if_neg fun field => same (Role.field_injective field)]

theorem filterMap_role {α : Type} (f : Role → Option α) (role : Role) :
    Role.all.filterMap (fun other => if other = role then f other else none) =
      (f role).toList := by
  cases own : f role <;> cases role <;> simp [Role.all, own]

/-- Under the field of a role stands the expression that the plan has for it. -/
theorem expressionsUnder_body (some : plan.items ≠ []) (source : String) (role : Role) :
    expressionsUnder ((plan.query source).body (plan.sourceSql source)) role.field =
      ((plan.expression? role).map Expression.sql).toList := by
  have own (other : Role) :
      ((plan.expression? other).map (other, ·)).bind (fun item =>
        if item.1 = role then Option.some item.2.sql else none) =
      if other = role then (plan.expression? other).map Expression.sql else none := by
    cases plan.expression? other <;> simp
  rw [expressionsUnder, items?_body plan some, Option.getD_some, List.filterMap_map]
  simp only [Function.comp_def, expressionOf?_itemTokens, items, List.filterMap_filterMap, own]
  exact filterMap_role (fun other => (plan.expression? other).map Expression.sql) role

end Reshape

/-- The axes of a chart, with the columns that a request has for them. Grouped bars have
the columns of x on the facet. -/
def Mark.axes (mark : Mark) (encoding : Encoding) : List (Role × List String) :=
  [(.y, encoding.y), (.r, encoding.r),
    if mark.isGrouped then (.fx, encoding.x) else (.x, encoding.x)]

theorem Mark.isHorizontal_of_isGrouped {mark : Mark} (h : mark.isGrouped) :
    mark.isHorizontal = false := by
  cases mark <;> first | rfl | cases h

/-- What the rules of a request say about an axis. -/
theorem Request.WellPlaced.axis {mark : Mark} {encoding : Encoding} (h : WellPlaced mark encoding)
    {role : Role} {columns : List String} (mem : (role, columns) ∈ mark.axes encoding) :
    (Reshape.plan mark encoding).encoding.get role = columns ∧
      ¬(role = .series ∨ role = .x ∧ mark.isGrouped) ∧
      (role ≠ mark.valueAxis → columns.length ≤ 1) := by
  change (Reshape.transpose mark encoding).get role = columns ∧ _
  by_cases grouped : mark.isGrouped
  · have across := Mark.isHorizontal_of_isGrouped grouped
    simp only [Mark.axes, if_pos grouped, List.mem_cons, Prod.mk.injEq, List.not_mem_nil,
      or_false] at mem
    rw [Reshape.transpose_of_isGrouped grouped, Mark.valueAxis_of_isGrouped grouped]
    rcases mem with ⟨rfl, rfl⟩ | ⟨rfl, rfl⟩ | ⟨rfl, rfl⟩
    · exact ⟨rfl, by simp, fun other => absurd rfl other⟩
    · exact ⟨rfl, by simp, fun _ => h.r⟩
    · exact ⟨rfl, by simp, fun _ => h.x.resolve_right (by simp [across])⟩
  · simp only [Mark.axes, if_neg grouped, List.mem_cons, Prod.mk.injEq, List.not_mem_nil,
      or_false] at mem
    rw [Reshape.transpose, if_neg grouped, Mark.valueAxis]
    rcases mem with ⟨rfl, rfl⟩ | ⟨rfl, rfl⟩ | ⟨rfl, rfl⟩
    · refine ⟨rfl, by simp, fun other => h.y.resolve_right fun upright => other ?_⟩
      rw [upright, if_neg Bool.false_ne_true]
    · exact ⟨rfl, by simp, fun _ => h.r⟩
    · refine ⟨rfl, by simp [grouped], fun other => h.x.resolve_right fun across => other ?_⟩
      rw [if_pos across]

/-- An axis has its own columns, one at most, unless its values are rotated. -/
theorem Request.WellPlaced.expression?_axis {mark : Mark} {encoding : Encoding}
    (h : WellPlaced mark encoding) {role : Role} {columns : List String}
    (mem : (role, columns) ∈ mark.axes encoding) :
    let plan := Reshape.plan mark encoding
    (columns.length ≤ 1 ∧ plan.expression? role = Expression.ofColumns? columns) ∨
      2 ≤ columns.length ∧ role = mark.valueAxis ∧
        plan.expression? role = Option.some (.single .value) := by
  intro plan
  obtain ⟨own, unkeyed, single⟩ := h.axis mem
  have rotates : plan.shape.rotates ↔ 1 < (plan.encoding.get mark.valueAxis).length := by
    rw [Reshape.rotates_plan, ← Reshape.transpose_valueAxis]
    rfl
  by_cases turned : plan.shape.rotates ∧ role = mark.valueAxis
  · obtain ⟨turns, rfl⟩ := turned
    exact .inr ⟨own ▸ rotates.1 turns, rfl, Reshape.expression?_value turns⟩
  · refine .inl ⟨?_, ?_⟩
    · by_cases value : role = mark.valueAxis
      · rw [← own, value]
        exact Nat.not_lt.1 fun several => turned ⟨rotates.2 several, value⟩
      · exact single value
    · rw [← own]
      exact Reshape.expression?_own fun turns => ⟨fun value => turned ⟨turns, value⟩, unkeyed⟩

theorem Expression.ofColumns?_ne_value (columns : List String) :
    ofColumns? columns ≠ some (.single .value) := by
  match columns with
  | [] | [_] | _ :: _ :: _ => simp [ofColumns?]

/-- An axis shows its column as it is. If it has several, it is the axis of the values, and
shows what the rotation makes of them: no axis of a valid request shows columns that are
joined to a text. -/
theorem axis_values_stay_single {request : Request} {mark : Mark} {source : String}
    (valid : request.validate = .ok mark) (solid : Text.isBlank source = false)
    (destination : String) :
    let plan := Reshape.plan mark request.encoding
    ∃ query, plan.sql source destination = .ok (Select.creation destination ++ query) ∧
      (∀ role columns, (role, columns) ∈ mark.axes request.encoding →
        (columns = [] ∧ plan.expression? role = none ∧ expressionsUnder query role.field = []) ∨
        (∃ name, columns = [name] ∧ plan.expression? role = some (.single (.column name)) ∧
          expressionsUnder query role.field = [quoteName name]) ∨
        (2 ≤ columns.length ∧ role = mark.valueAxis ∧
          plan.expression? role = some (.single .value) ∧
          expressionsUnder query role.field = [quoteName Names.value])) ∧
      (plan.expression? mark.valueAxis = some (.single .value) ↔
        2 ≤ (request.encoding.get mark.valueAxis).length) := by
  intro plan
  obtain ⟨-, placed⟩ := Request.validate_ok valid
  have under := Reshape.expressionsUnder_body placed.items_ne_nil source
  have rotates := Reshape.rotates_plan mark request.encoding
  refine ⟨_, plan.sql_of_solid solid destination, fun role columns mem => ?_, ?_⟩
  · rcases placed.expression?_axis mem with ⟨few, made⟩ | ⟨several, value, made⟩
    · match columns with
      | [] => exact .inl ⟨rfl, made, by rw [under, made]; rfl⟩
      | [name] => exact .inr (.inl ⟨name, rfl, made, by rw [under, made]; rfl⟩)
      | _ :: _ :: _ => simp at few
    · exact .inr (.inr ⟨several, value, made, by rw [under, made]; rfl⟩)
  · by_cases turns : plan.shape.rotates
    · exact iff_of_true (Reshape.expression?_value turns) (rotates.1 turns)
    · have made : plan.expression? mark.valueAxis = Expression.ofColumns? _ :=
        Reshape.expression?_own fun again => absurd again turns
      refine iff_of_false ?_ fun several => turns (rotates.2 several)
      rw [made]
      exact Expression.ofColumns?_ne_value _

/-- Horizontal bars of two prices, with a radius and a series of two columns. -/
def sidewaysBars : Request where
  table := "stocks"
  mark := some .barX
  encoding :=
    { Encoding.empty with
      x := ["Open", "Close"]
      y := ["\"Day\", concat_ws"]
      r := ["Volume"]
      series := ["Market", "Board"] }

theorem sidewaysBars_stay_single :
    let plan := Reshape.plan .barX sidewaysBars.encoding
    sidewaysBars.validate = .ok .barX ∧ Text.isBlank (quoteName "stocks") = false ∧
      ∃ query, plan.sql (quoteName "stocks") (quoteName "d") =
          .ok (Select.creation (quoteName "d") ++ query) ∧
        expressionsUnder query "x" = [quoteName Names.value] ∧
        expressionsUnder query "y" = [quoteName "\"Day\", concat_ws"] ∧
        expressionsUnder query "r" = [quoteName "Volume"] := by
  intro plan
  have valid : sidewaysBars.validate = .ok .barX := rfl
  have solid := (firm_quoteName "stocks").isBlank_eq
  obtain ⟨query, made, axes, -⟩ := axis_values_stay_single valid solid (quoteName "d")
  have x := ((axes .x ["Open", "Close"] (by decide)).resolve_left (by simp)).resolve_left (by simp)
  have y := ((axes .y ["\"Day\", concat_ws"] (by decide)).resolve_left (by simp)).resolve_right
    (by simp)
  have r := ((axes .r ["Volume"] (by decide)).resolve_left (by simp)).resolve_right (by simp)
  obtain ⟨_, ⟨⟩, -, y⟩ := y
  obtain ⟨_, ⟨⟩, -, r⟩ := r
  exact ⟨valid, solid, query, made, x.2.2.2, y, r⟩

end ChartQuery
