import ChartQuery.Proofs.Plan.GroupOrder

/-!
# The aggregate query and its schema

The aggregate query and the schema of its result are made apart from each other, each with
a filter of its own. Read back from its text, the query gives its columns the names of that
schema. It groups by all of them but the last, which is the folded value, and orders by what
it groups by. So the order of the rows is settled by the query, and not left to the engine.

Main statement: `aggregate_query_agrees`.
-/

namespace ChartQuery

open Token SelectList Clauses Text

namespace Grouping

/-- The query that folds a value over groups, and returns them in order. Without anything to
group by it has no clauses. -/
def folding (groups : List String) (value : String) (f : Aggregate) (source : List String) :
    Grouping where
  items := groups.map (fun name => [.quoted .name name]) ++
    [f.tokens value ++ (spell " AS " ++ [.quoted .name value])]
  names := groups ++ [value]
  source
  groupBy := if groups = [] then none else some groups
  orderBy := if groups = [] then none else some (groups.map (·, .ascending))

theorem listsGroups_folding (groups : List String) (value : String) (f : Aggregate)
    (source : List String) : (folding groups value f source).ListsGroups groups where
  items := ⟨_, rfl⟩
  names := ⟨_, rfl⟩
  groupBy := rfl
  keys := by
    by_cases none : groups = [] <;> simp [keys, folding, none, Function.comp_def]

end Grouping

theorem RowOrder.sql?_columns (keys : List (String × Direction)) :
    (columns keys).sql? = if keys.isEmpty then none
      else some (commaSeparated (keys.map fun key => quoteName key.1 ++ " " ++ key.2.sql)) := by
  cases keys <;> rfl

namespace Aggregation

variable (mark : Mark) (schema : Schema) (f : Aggregate) (catalog : Option String)
  (table : String)

theorem scans_source :
    let groups := groupColumns mark schema
    Scans (tableReference catalog table ++
        ((query mark schema f "").groupClause ++ (query mark schema f "").orderClause))
      (sourceTokens (catalogParts catalog ++ [table]) groups (groups.map (·, .ascending))) := by
  intro groups
  have grouped : Scans (query mark schema f "").groupClause
      (clauseTokens " GROUP BY " (fun name => [.quoted .name name]) groups) :=
    scans_clause (by decide) fun name _ => scans_quoteName name
  have ordered : Scans (query mark schema f "").orderClause
      (clauseTokens " ORDER BY " keyTokens (groups.map (·, .ascending))) := by
    change Scans (Select.clause _ (RowOrder.sql? (.columns _))) _
    rw [RowOrder.sql?_columns]
    exact scans_clause (by decide) fun key _ => scans_keyTokens key
  have second : Apart (query mark schema f "").orderClause :=
    apart_clause (by decide) (by decide) _
  have first : Apart (query mark schema f "").groupClause :=
    apart_clause (by decide) (by decide) _
  exact (scans_tableReference catalog table).append (grouped.append ordered second)
    (first.append second)

theorem read?_body :
    let value := mark.valueAxis.field
    let groups := groupColumns mark schema
    let source := tableReference catalog table
    Grouping.read? ((query mark schema f source).body source) =
      some (.folding groups value f (catalogParts catalog ++ [table])) := by
  intro value groups source
  have apart : value ∉ groups := value_notMem_groupColumns mark schema
  have read := Grouping.read?_select (by simp : groups ++ [value] ≠ [])
    (fun name _ => isItem value f name) (fun name _ => columnName?_itemTokens value f name)
    (by simp) (scans_source mark schema f catalog table)
  rw [map_itemSql f apart, map_itemTokens f apart, List.map_id'] at read
  rw [body_eq mark schema f (firm_tableReference catalog table), selectList_eq]
  simpa only [String.append_assoc, List.map_eq_nil_iff, Grouping.folding] using read

end Aggregation

/-- The aggregate query, read back from its text, names the columns of its schema. It groups
and orders by all of them but the last, which is the value. So what it orders by tells the
rows of a result apart, and there is one way to order them. -/
theorem aggregate_query_agrees (mark : Mark) (schema : Schema) (f : Aggregate)
    (catalog : Option String) (table : String) :
    let value := mark.valueAxis.field
    let groups := schema.names.filter (· ≠ value)
    let query := Grouping.folding groups value f (catalogParts catalog ++ [table])
    (∃ text, (Aggregation.query mark schema f (tableReference catalog table)).sql = .ok text ∧
      Grouping.read? text = some query) ∧
    query.names = (Aggregation.resultSchema mark schema f).names ∧
    (schema.names.Nodup → query.names.Nodup ∧ query.SettlesOrder) := by
  intro value groups query
  have grouped : groups = Aggregation.groupColumns mark schema :=
    List.filter_congr fun name _ => by simp [value, bne, beq_eq_decide]
  refine ⟨⟨_, Aggregation.sql_query mark schema f (firm_tableReference catalog table), ?_⟩, ?_,
    fun distinct => ⟨?_, (Grouping.listsGroups_folding ..).settlesOrder⟩⟩
  · rw [Aggregation.read?_body mark schema f catalog table, ← grouped]
  · rw [Aggregation.names_resultSchema, ← grouped]
    rfl
  · exact List.nodup_append.2 ⟨distinct.filter _, by simp, by simp [groups]⟩

end ChartQuery
