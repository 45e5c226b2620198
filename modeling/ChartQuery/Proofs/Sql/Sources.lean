import ChartQuery.Plan.Aggregation
import ChartQuery.Plan.Probe
import ChartQuery.Plan.Reshape

/-!
# Sources of queries

A query is refused if its source is blank, and its source is trimmed before it
is written. The sources that a run gives to its queries are firm: they begin
and end with a character that is no white space, since they begin with the quote
of a name and end with a quote or a bracket. So these queries can always be
written (`Reshape.sql_query`, `Aggregation.sql_query`), and their sources stand in them
as they are.
-/

namespace ChartQuery

namespace Text

/-- A text with no white space at either end, and with something in it. -/
structure Firm (s : String) : Prop where
  begins : ∃ c rest, s.toList = c :: rest ∧ isSpace c = false
  ends : ∃ front c, s.toList = front ++ [c] ∧ isSpace c = false

theorem Firm.append {a b c : String} (ha : Firm a) (hc : Firm c) : Firm (a ++ b ++ c) := by
  obtain ⟨x, rest, hx, solid⟩ := ha.begins
  obtain ⟨front, y, hy, solid'⟩ := hc.ends
  constructor
  · exact ⟨x, rest ++ b.toList ++ c.toList, by simp [hx], solid⟩
  · exact ⟨a.toList ++ b.toList ++ front, y, by simp [hy], solid'⟩

theorem Firm.trim_eq {s : String} (h : Firm s) : trim s = s := by
  obtain ⟨c, rest, hs, solid⟩ := h.begins
  obtain ⟨front, d, hs', solid'⟩ := h.ends
  have start : dropStart isSpace s.toList = s.toList := by
    rw [hs, dropStart, List.dropWhile_cons_of_neg (by simp [solid])]
  have finish : dropEnd isSpace s.toList = s.toList := by
    simp [hs', dropEnd, solid']
  rw [trim, start, finish, String.ofList_toList]

theorem Firm.isBlank_eq {s : String} (h : Firm s) : isBlank s = false := by
  obtain ⟨c, rest, hs, solid⟩ := h.begins
  simp [isBlank, hs, solid]

end Text

open Text

theorem toList_quoteName (name : String) :
    (quoteName name).toList = '"' :: (Quoted.double '"' name.toList ++ ['"']) := by
  simp [quoteName, Quoted.write]

theorem firm_quoteName (name : String) : Firm (quoteName name) where
  begins := ⟨_, _, toList_quoteName name, by decide⟩
  ends := ⟨'"' :: Quoted.double '"' name.toList, '"', by simp [toList_quoteName], by decide⟩

theorem firm_intercalate (separator : String) {texts : List String} (some : texts ≠ [])
    (firm : ∀ text ∈ texts, Firm text) : Firm (separator.intercalate texts) := by
  induction texts with
  | nil => exact absurd rfl some
  | cons text texts ih =>
    by_cases last : texts = []
    · simpa [last] using firm text (by simp)
    · rw [String.intercalate_cons_of_ne_nil last]
      exact (firm text (by simp)).append (ih last fun t ht => firm t (by simp [ht]))

theorem firm_tableReference (catalog : Option String) (table : String) :
    Firm (tableReference catalog table) := by
  refine firm_intercalate "." (by simp) ?_
  intro text mem
  obtain ⟨part, -, rfl⟩ := List.mem_map.1 mem
  exact firm_quoteName part

theorem Reshape.firm_sourceSql (plan : Reshape) {source : String} (h : Firm source) :
    Firm (plan.sourceSql source) := by
  unfold Reshape.sourceSql
  split
  · have bracket : Firm "))" := ⟨⟨')', [')'], by simp, by decide⟩, ⟨[')'], ')', by simp, by decide⟩⟩
    have := h.append (b := " UNPIVOT INCLUDE NULLS (" ++ quoteName Names.value ++ " FOR " ++
      quoteName Names.key ++ " IN (" ++ nameList plan.rotated) bracket
    simpa only [String.append_assoc] using this
  · exact h

namespace Select

theorem sql_of_firm {query : Select} {source : String} (here : query.source = some source)
    (h : Firm source) (plain : query.destination = none) : query.sql = .ok (query.body source) := by
  simp [sql, here, plain, h.isBlank_eq]

theorem body_of_firm (query : Select) {source : String} (h : Firm source) :
    query.body source = "SELECT " ++ query.selectList ++ " FROM " ++ source ++ query.whereClause ++
      query.groupClause ++ query.orderClause ++ query.limitClause := by
  simp [body, h.trim_eq, String.append_assoc]

end Select

/-- The query for the reshaped table, written over the source as it is. -/
theorem Reshape.sql_query (plan : Reshape) {source : String} (h : Firm source) :
    (plan.query source).sql =
      .ok ("SELECT " ++ (plan.query source).selectList ++ " FROM " ++ plan.sourceSql source) := by
  have firm := plan.firm_sourceSql h
  rw [Select.sql_of_firm rfl firm rfl, Select.body_of_firm _ firm]
  simp [query, Select.whereClause, Select.groupClause, Select.orderClause, Select.limitClause,
    Select.clause]

theorem Reshape.isBlank_sourceSql (plan : Reshape) {source : String}
    (solid : isBlank source = false) : isBlank (plan.sourceSql source) = false := by
  unfold sourceSql
  split
  · simp only [isBlank] at solid
    simp only [isBlank, String.toList_append, List.all_append, solid, Bool.false_and]
  · exact solid

theorem Reshape.sql_of_solid (plan : Reshape) {source : String} (solid : isBlank source = false)
    (destination : String) : plan.sql source destination =
      .ok (Select.creation destination ++ (plan.query source).body (plan.sourceSql source)) := by
  simp only [sql, Select.sql, query, plan.isBlank_sourceSql solid, Bool.false_eq_true, if_false]
  rfl

theorem Aggregation.sql_query (mark : Mark) (schema : Schema) (f : Aggregate) {table : String}
    (h : Firm table) :
    (Aggregation.query mark schema f table).sql =
      .ok ((Aggregation.query mark schema f table).body table) :=
  Select.sql_of_firm rfl h rfl

/-- The table stands in its aggregate query as it is, and nothing else in the
query depends on it. -/
theorem Aggregation.body_eq (mark : Mark) (schema : Schema) (f : Aggregate) {table : String}
    (h : Firm table) :
    let query := Aggregation.query mark schema f ""
    (Aggregation.query mark schema f table).body table =
      "SELECT " ++ query.selectList ++ " FROM " ++ table ++
        (query.groupClause ++ query.orderClause) := by
  rw [Select.body_of_firm _ h]
  simp [query, Select.whereClause, Select.groupClause, Select.orderClause, Select.limitClause,
    Select.clause, Select.selectList, Select.items, String.append_assoc]

theorem Select.sql_everything {table : String} (h : Firm table) :
    ({ source := some table } : Select).sql = .ok ("SELECT * FROM " ++ table) := by
  rw [Select.sql_of_firm rfl h rfl, Select.body_of_firm _ h]
  simp [Select.selectList, Select.items, Select.whereClause, Select.groupClause,
    Select.orderClause, Select.limitClause, Select.clause]

theorem commaSeparated_begins (text : String) (texts : List String) :
    text.toList <+: (commaSeparated (text :: texts)).toList := by
  by_cases last : texts = []
  · simp [last, commaSeparated]
  · rw [commaSeparated, String.intercalate_cons_of_ne_nil last]
    simp only [String.toList_append, List.append_assoc]
    exact List.prefix_append ..

theorem Aggregation.selectList_begins (mark : Mark) (schema : Schema) (f : Aggregate)
    (table : String) :
    ∃ c rest, (Aggregation.query mark schema f table).selectList.toList = c :: rest ∧ c ≠ '*' := by
  have item : ∃ text texts, (Aggregation.query mark schema f table).items = text :: texts ∧
      ∃ c rest, text.toList = c :: rest ∧ c ≠ '*' := by
    simp only [Select.items, Aggregation.query]
    cases groupColumns mark schema with
    | nil =>
      refine ⟨_, _, rfl, ?_⟩
      cases f <;>
        simp only [Aggregate.expression, Aggregate.name, String.toList_append,
          List.append_assoc] <;>
        exact ⟨_, _, rfl, by decide⟩
    | cons name names =>
      exact ⟨_, _, rfl, _, _, toList_quoteName name, by decide⟩
  obtain ⟨text, texts, items, c, rest, chars, different⟩ := item
  obtain ⟨more, same⟩ := commaSeparated_begins text texts
  refine ⟨c, rest ++ more, ?_, different⟩
  rw [Select.selectList, items, ← List.cons_append, ← chars, same]
  simp

theorem Aggregation.body_ne_everything (mark : Mark) (schema : Schema) (f : Aggregate)
    (table other : String) :
    (Aggregation.query mark schema f table).body table ≠ "SELECT * FROM " ++ other := by
  intro same
  obtain ⟨c, rest, chars, different⟩ := selectList_begins mark schema f table
  have texts := congrArg String.toList same
  have star : "SELECT * FROM " = "SELECT " ++ "* FROM " := by decide
  rw [star] at texts
  simp only [Select.body, String.toList_append, List.append_assoc, List.append_cancel_left_eq,
    chars] at texts
  simp at texts
  exact different texts.1

end ChartQuery
