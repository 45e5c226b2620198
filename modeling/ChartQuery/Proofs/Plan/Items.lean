import ChartQuery.Plan.Aggregation
import ChartQuery.Plan.Probe
import ChartQuery.Proofs.Plan.Roles
import ChartQuery.Proofs.Sql.SelectList

/-!
# The columns of generated queries

The select lists of a run have four forms: the items of the reshaped table, the
groups with the aggregate, the verdict of the probe, and everything. Each is read
here token by token, and gives the names of its columns. The items of the reshaped
table are also read back one by one (`Reshape.items?_body`).
-/

namespace ChartQuery

open Token SelectList

namespace Operand

theorem sql_eq (operand : Operand) : operand.sql = quoteName operand.name := by
  cases operand <;> rfl

def textTokens : Operand → List Token
  | column name => spell "CAST" ++ (spell "(" ++ ([.quoted .name name] ++ spell " AS VARCHAR") ++
      spell ")")
  | other => [.quoted .name other.name]

theorem scans_textSql (operand : Operand) : Scans operand.textSql operand.textTokens := by
  cases operand with
  | column name =>
    have cast := (scans_quoteName name).append (by decide : Plain " AS VARCHAR)").scans (by decide)
    have whole := Scans.spell_append (by decide : Plain "CAST(") cast
    simpa [textSql, textTokens, spell, String.append_assoc] using whole
  | key => exact scans_quoteName Names.key
  | value => exact scans_quoteName Names.value

theorem passes_textTokens (operand : Operand) (depth : Nat) :
    Passes (depth + 1) operand.textTokens := by
  cases operand with
  | column name =>
    have cast : Passes (depth + 2) ([.quoted .name name] ++ spell " AS VARCHAR") :=
      (passes_quoted .name name).append (passes_spell (by simp [isOrdinary]))
    exact .call (by simp [isOrdinary]) cast
  | key => exact passes_quoted .name Names.key
  | value => exact passes_quoted .name Names.value

end Operand

namespace Expression

def tokens : Expression → List Token
  | single operand => [.quoted .name operand.name]
  | joined operands =>
    spell "concat_ws" ++ (spell "(" ++ ([.quoted .text Names.separator] ++ (spell ", " ++
      (spell ", ").intercalate (operands.map Operand.textTokens))) ++ spell ")")

theorem isItem (e : Expression) : IsItem e.sql e.tokens := by
  cases e with
  | single operand =>
    rw [sql, operand.sql_eq]
    exact isItem_quoteName operand.name
  | joined operands =>
    have comma : Plain ", " := by decide
    have list := scans_intercalate comma (by decide)
      fun operand (_ : operand ∈ operands) => operand.scans_textSql
    have closing := list.append (by decide : Plain ")").scans (by decide)
    have arguments := (scans_quoteText Names.separator).append (.spell_append comma closing)
      (comma.apart_append (by decide) _)
    have whole := Scans.spell_append (by decide : Plain "concat_ws(") arguments
    constructor
    · simpa [sql, tokens, commaSeparated, spell, String.append_assoc] using whole
    · have passes := passes_intercalate fun operand (_ : operand ∈ operands) =>
        operand.passes_textTokens 0
      have separator : Passes 1 (spell ", ") := passes_spell (by simp [isOrdinary])
      exact .call (by simp [isOrdinary])
        ((passes_quoted .text Names.separator).append (separator.append passes))
    · exact ⟨.plain 'c', _, rfl, by decide⟩

end Expression

namespace Reshape

variable (plan : Reshape)

def itemTokens (item : Role × Expression) : List Token :=
  item.2.tokens ++ (spell " AS " ++ [.quoted .name item.1.field])

theorem isItem (item : Role × Expression) : IsItem (itemSql item) (itemTokens item) :=
  item.2.isItem.named item.1.field

theorem selectList_eq (some : plan.items ≠ []) (source : String) :
    (plan.query source).selectList = commaSeparated (plan.items.map itemSql) := by
  simp [Select.selectList, Select.items, query, some]

theorem body_eq (some : plan.items ≠ []) (source : String) :
    (plan.query source).body (plan.sourceSql source) = "SELECT " ++
      (commaSeparated (plan.items.map itemSql) ++
        (" FROM " ++ Text.trim (plan.sourceSql source))) := by
  rw [Select.body, selectList_eq plan some]
  simp [query, Select.whereClause, Select.groupClause, Select.orderClause, Select.limitClause,
    Select.clause, String.append_assoc]

/-- The select list of the reshaped table is read back. -/
theorem items?_body (some : plan.items ≠ []) (source : String) :
    items? ((plan.query source).body (plan.sourceSql source)) =
      .some (plan.items.map itemTokens) := by
  rw [body_eq plan some]
  exact items?_select _ some fun item _ => isItem item

/-- The reshaped table has the fields of the roles of the plan. -/
theorem columns?_query (some : plan.items ≠ []) (source rest : String) :
    columns? ("SELECT " ++ (plan.query source).selectList ++ " FROM " ++ rest) =
      .some (plan.roles.map Role.field) := by
  have named : ∀ item ∈ plan.items, columnName? (itemTokens item) = .some item.1.field :=
    fun item _ => columnName?_named item.2.tokens item.1.field
  have read := columns?_select rest some (fun item _ => isItem item) named
  rw [selectList_eq plan some, String.append_assoc, String.append_assoc, read, roles, List.map_map]
  rfl

end Reshape

namespace Aggregate

def tokens (f : Aggregate) (name : String) : List Token :=
  match f with
  | count => spell "count" ++ (spell "(" ++ [.quoted .name name] ++ spell ")")
  | _ =>
    spell f.name ++ (spell "(" ++ (spell "CAST" ++ (spell "(" ++
      ([.quoted .name name] ++ spell " AS DOUBLE") ++ spell ")")) ++ spell ")")

theorem isItem (f : Aggregate) (name : String) :
    IsItem (f.expression (quoteName name)) (f.tokens name) := by
  have operand := scans_quoteName name
  have passes {depth : Nat} : Passes depth [.quoted .name name] := passes_quoted .name name
  have cast : Passes 1 (spell "CAST" ++ (spell "(" ++
      ([.quoted .name name] ++ spell " AS DOUBLE") ++ spell ")")) :=
    .call (by simp [isOrdinary]) (passes.append (passes_spell (by simp [isOrdinary])))
  have doubles := operand.append (by decide : Plain " AS DOUBLE))").scans (by decide)
  have word : Plain (f.name ++ "(CAST(") := by cases f <;> decide
  have folded := Scans.spell_append word doubles
  constructor
  · cases f with
    | count =>
      have counted := Scans.spell_append (by decide : Plain "count(")
        (operand.append (by decide : Plain ")").scans (by decide))
      simpa [expression, tokens, spell, String.append_assoc] using counted
    | _ => simpa [expression, tokens, spell, String.append_assoc] using folded
  · cases f with
    | count => exact .call (by simp [isOrdinary]) passes
    | _ => exact .call (by simp [Aggregate.name, isOrdinary]) cast
  · cases f <;> exact ⟨_, _, rfl, by decide⟩

end Aggregate

namespace Aggregation

section Items

variable (value : String) (f : Aggregate)

/-- A column of an aggregate query: the value is folded, and a group stands for
itself. -/
def itemSql (name : String) : String :=
  if name = value then f.expression (quoteName name) ++ " AS " ++ quoteName name
  else quoteName name

def itemTokens (name : String) : List Token :=
  if name = value then f.tokens name ++ (spell " AS " ++ [.quoted .name name])
  else [.quoted .name name]

theorem isItem (name : String) : IsItem (itemSql value f name) (itemTokens value f name) := by
  unfold itemSql itemTokens
  split
  · exact (f.isItem name).named name
  · exact isItem_quoteName name

theorem columnName?_itemTokens (name : String) :
    columnName? (itemTokens value f name) = some name := by
  unfold itemTokens
  split
  · exact columnName?_named (f.tokens name) name
  · rfl

theorem map_itemSql {value : String} {groups : List String} (apart : value ∉ groups) :
    (groups ++ [value]).map (itemSql value f) =
      groups.map quoteName ++ [f.expression (quoteName value) ++ " AS " ++ quoteName value] := by
  have plain : groups.map (itemSql value f) = groups.map quoteName := by
    refine List.map_congr_left fun name mem => ?_
    rw [itemSql, if_neg (by rintro rfl; exact apart mem)]
  rw [List.map_append, plain, List.map_singleton, itemSql, if_pos rfl]

theorem map_itemTokens {value : String} {groups : List String} (apart : value ∉ groups) :
    (groups ++ [value]).map (itemTokens value f) =
      groups.map (fun name => [.quoted .name name]) ++
        [f.tokens value ++ (spell " AS " ++ [.quoted .name value])] := by
  have plain : groups.map (itemTokens value f) = groups.map fun name => [.quoted .name name] := by
    refine List.map_congr_left fun name mem => ?_
    rw [itemTokens, if_neg (by rintro rfl; exact apart mem)]
  rw [List.map_append, plain, List.map_singleton, itemTokens, if_pos rfl]

end Items

variable (mark : Mark) (schema : Schema) (f : Aggregate)

theorem value_notMem_groupColumns : mark.valueAxis.field ∉ groupColumns mark schema := by
  simp [groupColumns]

theorem names_resultSchema :
    (resultSchema mark schema f).names = groupColumns mark schema ++ [mark.valueAxis.field] := by
  simp [resultSchema, groupColumns, Schema.names, List.filter_map, Function.comp_def]

theorem selectList_eq (table : String) : (query mark schema f table).selectList =
    commaSeparated ((groupColumns mark schema).map quoteName ++
      [f.expression (quoteName mark.valueAxis.field) ++ " AS " ++
        quoteName mark.valueAxis.field]) := by
  simp [Select.selectList, Select.items, query]

/-- The select list of an aggregate query. -/
theorem items?_body {table : String} (h : Text.Firm table) :
    items? ((query mark schema f table).body table) =
      some ((groupColumns mark schema ++ [mark.valueAxis.field]).map
        (itemTokens mark.valueAxis.field f)) := by
  have read := items?_select
    (table ++ ((query mark schema f "").groupClause ++ (query mark schema f "").orderClause))
    (by simp : groupColumns mark schema ++ [mark.valueAxis.field] ≠ [])
    (fun name _ => isItem mark.valueAxis.field f name)
  rw [map_itemSql f (value_notMem_groupColumns mark schema)] at read
  rw [body_eq mark schema f h, selectList_eq]
  simpa only [String.append_assoc] using read

theorem columns?_body {table : String} (h : Text.Firm table) :
    columns? ((query mark schema f table).body table) =
      some (groupColumns mark schema ++ [mark.valueAxis.field]) := by
  rw [columns?, items?_body mark schema f h, Option.bind_some,
    mapM_columnName? fun name _ => columnName?_itemTokens mark.valueAxis.field f name,
    List.map_id']

end Aggregation

namespace Probe

def comparisonTokens (names : List String) : List Token :=
  spell "(" ++ ((spell "count" ++ (spell "(" ++ (spell "DISTINCT row" ++ (spell "(" ++
      (spell ", ").intercalate (names.map fun name => [.quoted .name name]) ++ spell ")")) ++
    spell ")")) ++ (spell " = count" ++ (spell "(" ++ spell "*" ++ spell ")"))) ++ spell ")"

theorem isItem (names : List String) :
    IsItem ("(count(DISTINCT row(" ++ nameList names ++ ")) = count(*))")
      (comparisonTokens names) where
  scans := by
    have front : spell "(count(DISTINCT row(" = spell "(" ++ (spell "count" ++ (spell "(" ++
      (spell "DISTINCT row" ++ spell "("))) := by decide +kernel
    have back : spell ")) = count(*))" = spell ")" ++ (spell ")" ++ (spell " = count" ++
      (spell "(" ++ (spell "*" ++ (spell ")" ++ spell ")"))))) := by decide +kernel
    have closing := (scans_nameList names).append (by decide +kernel : Plain ")) = count(*))").scans
      (by decide +kernel)
    have whole := Scans.spell_append (by decide +kernel : Plain "(count(DISTINCT row(") closing
    rw [front, back] at whole
    rw [String.append_assoc]
    simpa only [comparisonTokens, List.append_assoc] using whole
  passes := by
    have list : Passes 3 ((spell ", ").intercalate (names.map fun name => [.quoted .name name])) :=
      passes_intercalate fun name _ => passes_quoted .name name
    have row : Passes 2 (spell "DISTINCT row" ++ _) := .call (by simp [isOrdinary]) list
    have distinct : Passes 1 (spell "count" ++ _) := .call (by simp [isOrdinary]) row
    have all : Passes 2 (spell "*") := passes_spell (by simp [isOrdinary])
    have total : Passes 1 (spell " = count" ++ _) := .call (by simp [isOrdinary]) all
    exact (distinct.append total).brackets
  begins := ⟨.plain '(', _, rfl, by decide⟩

theorem items?_comparison (names : List String) (label rest : String) :
    items? ("SELECT (count(DISTINCT row(" ++ nameList names ++ ")) = count(*)) AS " ++
        quoteName label ++ " FROM " ++ rest) =
      some [comparisonTokens names ++ (spell " AS " ++ [.quoted .name label])] := by
  have front : "SELECT (count(DISTINCT row(" = "SELECT " ++ "(count(DISTINCT row(" := by
    decide +kernel
  have back : ")) = count(*)) AS " = ")) = count(*))" ++ " AS " := by decide +kernel
  have read := items?_select rest (by simp : [()] ≠ [])
    fun _ _ => (isItem names).named label
  rw [front, back]
  simpa only [List.map_cons, List.map_nil, commaSeparated, String.intercalate_singleton,
    String.append_assoc, -String.reduceAppend] using read

/-- The probe has its verdict as its column. -/
theorem columns?_sql {names : List String} {table query : String}
    (h : sql? names table = some query) : columns? query = some [Names.verdict] := by
  unfold sql? at h
  split at h
  · cases h
  · rw [← Option.some.inj h, columns?, items?_comparison, Option.bind_some, List.mapM_cons,
      columnName?_named]
    rfl

end Probe

theorem columns?_everything (table : String) : columns? ("SELECT * FROM " ++ table) = none := by
  have item : IsItem "*" (spell "*") :=
    ⟨(by decide : Plain "*").scans, passes_spell (by simp [isOrdinary]), .plain '*', [], rfl,
      by decide⟩
  have read := items?_select table (by simp : [()] ≠ []) fun _ _ => item
  have split : "SELECT * FROM " ++ table =
      "SELECT " ++ (commaSeparated ([()].map fun _ => "*") ++ (" FROM " ++ table)) := by
    simp [commaSeparated, ← String.append_assoc]
  rw [split, columns?, read]
  rfl

end ChartQuery
