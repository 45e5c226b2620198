import ChartQuery.Proofs.Data.Fields
import ChartQuery.Proofs.Plan.Items

/-!
# Distinct rows need no aggregation

If the rows of a table are distinct along the columns of the probe, they are distinct
along the groups of the aggregate query, since these are more columns. So each group
has one row, and folding the groups would have given back the rows.

What an engine does with the two queries is taken from it as a hypothesis (`Lawful`):
it counts distinct rows, and it groups rows, by equality on columns, where a missing
cell is equal to a missing cell.

Main statement: `distinct_rows_stay_single`.
-/

namespace ChartQuery

open Token SelectList Text

abbrev Record := String → Cell

/-- Two rows with the same cells in some columns. -/
def Agree (columns : List String) (a b : Record) : Prop := ∀ c ∈ columns, a c = b c

instance (columns : List String) (a b : Record) : Decidable (Agree columns a b) :=
  List.decidableBAll _ columns

/-- No two rows agree. -/
def Distinct (columns : List String) (rows : List Record) : Prop :=
  rows.Pairwise fun a b => ¬Agree columns a b

instance (columns : List String) (rows : List Record) : Decidable (Distinct columns rows) :=
  inferInstanceAs (Decidable (List.Pairwise ..))

/-- A partition of rows by equality on some columns. -/
structure Groups (columns : List String) (rows : List Record) (groups : List (List Record)) :
    Prop where
  all : groups.flatten.Perm rows
  some : ∀ group ∈ groups, group ≠ []
  within : ∀ group ∈ groups, ∀ a ∈ group, ∀ b ∈ group, Agree columns a b
  between : groups.Pairwise fun g h => ∀ a ∈ g, ∀ b ∈ h, ¬Agree columns a b

section Agree

variable {columns more : List String} {a b c : Record} {rows : List Record}
  {groups : List (List Record)}

theorem Agree.symm (h : Agree columns a b) : Agree columns b a :=
  fun name mem => (h name mem).symm

theorem Agree.trans (h : Agree columns a b) (k : Agree columns b c) : Agree columns a c :=
  fun name mem => (h name mem).trans (k name mem)

theorem Distinct.mono (h : Distinct columns rows) (sub : columns ⊆ more) : Distinct more rows :=
  h.imp fun apart same => apart fun name mem => same name (sub mem)

/-- Distinct rows are all by themselves. -/
theorem Groups.single (h : Groups columns rows groups) (distinct : Distinct columns rows) :
    ∀ group ∈ groups, ∃ row, group = [row] := by
  intro group mem
  have apart : groups.flatten.Pairwise fun a b => ¬Agree columns a b :=
    (h.all.pairwise_iff fun apart same => apart same.symm).2 distinct
  have inside := apart.sublist (List.sublist_flatten_of_mem mem)
  match group with
  | [] => exact absurd rfl (h.some [] mem)
  | [row] => exact ⟨row, rfl⟩
  | a :: b :: rest =>
    have same := h.within _ mem a (by simp) b (by simp)
    exact absurd same ((List.pairwise_cons.1 inside).1 b (by simp))

theorem map_of_single {α : Type} (f : List Record → α)
    (single : ∀ group ∈ groups, ∃ row, group = [row]) :
    groups.map f = groups.flatten.map fun row => f [row] := by
  induction groups with
  | nil => rfl
  | cons group groups ih =>
    obtain ⟨row, rfl⟩ := single group (by simp)
    rw [List.map_cons, ih fun group mem => single group (by simp [mem])]
    rfl

end Agree

/-- What an engine returns for a query, given the rows of its source: the rows of the
result, with their cells in the order of the select list. -/
abbrev Database := String → List Record → List (List Cell)

/-- The row that a group gives: its columns, and the fold of its values. -/
def folded (columns : List String) (value : String) (fold : List Cell → Cell)
    (group : List Record) : List Cell :=
  columns.map (fun c => ((group.head?).map (· c)).getD .null) ++ [fold (group.map (· value))]

/-- An engine that counts distinct rows and groups rows by equality on columns. -/
structure Lawful (select : Database) (fold : Aggregate → List Cell → Cell) : Prop where
  distinct : ∀ columns label table rows, columns ≠ [] →
    (select ("SELECT (count(DISTINCT row(" ++ nameList columns ++ ")) = count(*)) AS " ++
        quoteName label ++ " FROM " ++ table) rows = [[.truth true]] ↔ Distinct columns rows)
  grouping : ∀ columns value f table rows, columns ≠ [] → value ∉ columns →
    ∃ groups, Groups columns rows groups ∧
      (select ("SELECT " ++ commaSeparated (columns.map quoteName ++
          [Aggregate.expression f (quoteName value) ++ " AS " ++ quoteName value]) ++
        " FROM " ++ table ++ " GROUP BY " ++ nameList columns ++ " ORDER BY " ++
        commaSeparated (columns.map fun c => quoteName c ++ " ASC")) rows).Perm
      (groups.map (folded columns value (fold f)))

namespace Probe

variable {mark : Mark} {schema : Schema}

/-- The probe asks about columns that the aggregate query groups by. -/
theorem columns_sub_groupColumns :
    columns mark schema ⊆ Aggregation.groupColumns mark schema := by
  intro name mem
  obtain ⟨mem, has⟩ := List.mem_filter.1 mem
  obtain ⟨role, identifies, rfl⟩ := List.mem_map.1 mem
  have other : role ≠ mark.valueAxis := by
    rintro rfl
    revert identifies
    cases mark <;> decide
  refine List.mem_filter.2 ⟨Schema.has_eq_true.1 has, ?_⟩
  simpa using fun same => other (Role.field_injective same)

end Probe

/-- The aggregate query, written out. -/
theorem Aggregation.body_eq_grouping (mark : Mark) (schema : Schema) (f : Aggregate)
    {table : String} (firm : Firm table) (some : groupColumns mark schema ≠ []) :
    (query mark schema f table).body table =
      "SELECT " ++ commaSeparated ((groupColumns mark schema).map quoteName ++
          [f.expression (quoteName mark.valueAxis.field) ++ " AS " ++
            quoteName mark.valueAxis.field]) ++
        " FROM " ++ table ++ " GROUP BY " ++ nameList (groupColumns mark schema) ++ " ORDER BY " ++
        commaSeparated ((groupColumns mark schema).map fun c => quoteName c ++ " ASC") := by
  have groups : (query mark schema f "").groupClause =
      " GROUP BY " ++ nameList (groupColumns mark schema) := by
    simp [Select.groupClause, query, Select.clause, some]
  have order : (query mark schema f "").orderClause = " ORDER BY " ++
      commaSeparated ((groupColumns mark schema).map fun c => quoteName c ++ " ASC") := by
    obtain ⟨name, names, listed⟩ := List.exists_cons_of_ne_nil some
    simp [Select.orderClause, query, Select.clause, RowOrder.ascending, listed, RowOrder.sql?,
      Direction.sql, Function.comp_def, String.append_assoc]
  rw [body_eq mark schema f firm, selectList_eq, groups, order]
  simp only [String.append_assoc]

/-- If the probe is sent and finds the rows distinct, no aggregate is chosen, and none
is needed: however the rows are grouped by the columns of the aggregate query, each
group has one row, and the aggregate query would have returned the rows of the table
with each value folded by itself. -/
theorem distinct_rows_stay_single {select : Database} {fold : Aggregate → List Cell → Cell}
    {mark : Mark} {schema : Schema} {rows : List Record} {table query : String}
    (lawful : Lawful select fold)
    (sent : Probe.sql? (Probe.columns mark schema) (quoteName table) = some query)
    (answered : select query rows = [[.truth true]]) :
    (∀ encoding choice, Aggregation.choose mark encoding true choice = none) ∧
    (∀ groups, Groups (Aggregation.groupColumns mark schema) rows groups →
      ∀ group ∈ groups, ∃ row, group = [row]) ∧
    ∀ f, ∃ text, (Aggregation.query mark schema f (quoteName table)).sql = .ok text ∧
      (select text rows).Perm (rows.map fun row =>
        (Aggregation.groupColumns mark schema).map row ++ [fold f [row mark.valueAxis.field]]) := by
  unfold Probe.sql? at sent
  split at sent
  · cases sent
  rename_i asked
  rw [List.isEmpty_iff] at asked
  have probed : Distinct (Probe.columns mark schema) rows := by
    rw [← Option.some.inj sent] at answered
    exact (lawful.distinct _ _ _ rows asked).1 answered
  have distinct := probed.mono Probe.columns_sub_groupColumns
  have some : Aggregation.groupColumns mark schema ≠ [] := fun none =>
    asked (List.subset_nil.1 (none ▸ Probe.columns_sub_groupColumns))
  refine ⟨fun encoding choice => by simp [Aggregation.choose],
    fun groups grouped => grouped.single distinct, fun f => ?_⟩
  have firm := firm_quoteName table
  refine ⟨_, Aggregation.sql_query mark schema f firm, ?_⟩
  obtain ⟨groups, grouped, result⟩ := lawful.grouping _ _ f (quoteName table) rows some
    (Aggregation.value_notMem_groupColumns mark schema)
  rw [Aggregation.body_eq_grouping mark schema f firm some]
  rw [map_of_single _ (grouped.single distinct)] at result
  refine result.trans ?_
  simpa [folded] using grouped.all.map _

def place (columns : List String) (row : Record) : List (List Record) → List (List Record)
  | [] => [[row]]
  | group :: groups =>
    if ∀ other ∈ group, Agree columns row other then (row :: group) :: groups
    else group :: place columns row groups

/-- The rows in groups, each of them put in its place. -/
def groupsOf (columns : List String) (rows : List Record) : List (List Record) :=
  rows.foldr (place columns) []

section Place

variable {columns : List String} {row : Record} {rows : List Record}
  {groups : List (List Record)}

theorem flatten_place (columns : List String) (row : Record) (groups : List (List Record)) :
    (place columns row groups).flatten.Perm (row :: groups.flatten) := by
  induction groups with
  | nil => simp [place]
  | cons group groups ih =>
    rw [place]
    split
    · simp
    · rw [List.flatten_cons, List.flatten_cons]
      exact (ih.append_left group).trans List.perm_middle

/-- A group is as it was, or it has the row and others that agree with it. -/
theorem mem_place {group : List Record} (mem : group ∈ place columns row groups) :
    group ∈ groups ∨ ∃ others, group = row :: others ∧ (others = [] ∨ others ∈ groups) ∧
      ∀ other ∈ others, Agree columns row other := by
  induction groups with
  | nil =>
    rw [place, List.mem_singleton] at mem
    exact .inr ⟨[], mem, .inl rfl, by simp⟩
  | cons first groups ih =>
    rw [place] at mem
    split at mem
    · rename_i agrees
      rcases List.mem_cons.1 mem with rfl | mem
      · exact .inr ⟨first, rfl, .inr (by simp), agrees⟩
      · exact .inl (by simp [mem])
    · rcases List.mem_cons.1 mem with rfl | mem
      · exact .inl (by simp)
      · rcases ih mem with old | ⟨others, rfl, here, agrees⟩
        · exact .inl (by simp [old])
        · exact .inr ⟨others, rfl, here.imp_right (List.mem_cons_of_mem _), agrees⟩

theorem between_place (some : ∀ group ∈ groups, group ≠ [])
    (within : ∀ group ∈ groups, ∀ a ∈ group, ∀ b ∈ group, Agree columns a b)
    (between : groups.Pairwise fun g h => ∀ a ∈ g, ∀ b ∈ h, ¬Agree columns a b) :
    (place columns row groups).Pairwise fun g h => ∀ a ∈ g, ∀ b ∈ h, ¬Agree columns a b := by
  induction groups with
  | nil => simp [place]
  | cons first groups ih =>
    obtain ⟨apart, rest⟩ := List.pairwise_cons.1 between
    rw [place]
    split
    · rename_i agrees
      refine List.pairwise_cons.2 ⟨fun group mem a here b there => ?_, rest⟩
      rcases List.mem_cons.1 here with rfl | here
      · obtain ⟨other, others, rfl⟩ := List.exists_cons_of_ne_nil (some first (by simp))
        intro same
        exact apart group mem other (by simp) b there ((agrees other (by simp)).symm.trans same)
      · exact apart group mem a here b there
    · rename_i differs
      have later := ih (fun group mem => some group (by simp [mem]))
        (fun group mem => within group (by simp [mem])) rest
      refine List.pairwise_cons.2 ⟨fun group mem a here b there same => ?_, later⟩
      rcases mem_place mem with old | ⟨others, rfl, old, agrees⟩
      · exact apart group old a here b there same
      · rcases List.mem_cons.1 there with rfl | there
        · exact differs fun other mem => same.symm.trans (within first (by simp) a here other mem)
        · rcases old with rfl | old
          · cases there
          · exact apart others old a here b there same

theorem Groups.place (h : Groups columns rows groups) (row : Record) :
    Groups columns (row :: rows) (place columns row groups) where
  all := (flatten_place columns row groups).trans (h.all.cons row)
  some group mem := by
    rcases mem_place mem with old | ⟨others, rfl, -⟩
    · exact h.some group old
    · simp
  within group mem := by
    rcases mem_place mem with old | ⟨others, rfl, old, agrees⟩
    · exact h.within group old
    · have all : ∀ a ∈ row :: others, Agree columns row a := by
        intro a mem
        rcases List.mem_cons.1 mem with rfl | mem
        · exact fun _ _ => rfl
        · exact agrees a mem
      exact fun a here b there => (all a here).symm.trans (all b there)
  between := between_place h.some h.within h.between

theorem groups_groupsOf (columns : List String) (rows : List Record) :
    Groups columns rows (groupsOf columns rows) := by
  induction rows with
  | nil => exact ⟨.nil, by simp [groupsOf], by simp [groupsOf], .nil⟩
  | cons row rows ih => exact ih.place row

end Place

/-- What a select list groups by, the value that it folds, and the aggregate. -/
def readGrouping? (items : List (List Token)) : Option (List String × String × Aggregate) := do
  let last ← items.getLast?
  let value ← columnName? last
  let columns ← items.dropLast.mapM columnName?
  let f ← Aggregate.all.find? fun f => Aggregation.itemTokens value f value == last
  return (columns, value, f)

def foldOne : Aggregate → List Cell → Cell
  | .count, cells => .integer (cells.countP (· != .null))
  | _, cells => cells.headD .null

/-- An engine that answers by the select list of a query. -/
def answerByList (text : String) (rows : List Record) : List (List Cell) :=
  match items? text with
  | none => []
  | some items =>
    if items.length = 1 then [[.truth (decide (Distinct (namesIn items.flatten).dropLast rows))]]
    else
      match readGrouping? items with
      | some (columns, value, f) =>
        (groupsOf columns rows).map (folded columns value (foldOne f))
      | none => []

theorem Aggregate.tokens_injective {f g : Aggregate} {name : String}
    (same : f.tokens name = g.tokens name) : f = g := by
  cases f <;> cases g <;> first
    | rfl
    | simp [tokens, Aggregate.name, spell] at same

theorem Aggregate.find?_all (f : Aggregate) : all.find? (· == f) = some f := by
  cases f <;> rfl

theorem readGrouping?_items (columns : List String) (value : String) (f : Aggregate) :
    readGrouping? ((columns ++ [value]).map (Aggregation.itemTokens value f)) =
      some (columns, value, f) := by
  have names : (columns.map (Aggregation.itemTokens value f)).mapM columnName? = some columns := by
    simpa using mapM_columnName? fun name (_ : name ∈ columns) =>
      Aggregation.columnName?_itemTokens value f name
  have found (g : Aggregate) : (Aggregation.itemTokens value g value ==
      Aggregation.itemTokens value f value) = (g == f) := by
    rw [Bool.eq_iff_iff, beq_iff_eq, beq_iff_eq, Aggregation.itemTokens, Aggregation.itemTokens,
      if_pos rfl, if_pos rfl, List.append_cancel_right_eq]
    exact ⟨Aggregate.tokens_injective, fun same => by rw [same]⟩
  simp [readGrouping?, Aggregation.columnName?_itemTokens, names, found, Aggregate.find?_all]

theorem Probe.namesIn_comparisonTokens (names : List String) :
    namesIn (comparisonTokens names) = names := by
  simp only [comparisonTokens, namesIn_append, namesIn_spell, namesIn_intercalate,
    List.nil_append, List.append_nil]
  exact List.flatMap_singleton' names

theorem lawful_answerByList : Lawful answerByList foldOne where
  distinct columns label table rows some := by
    rw [answerByList, Probe.items?_comparison]
    simp [Probe.namesIn_comparisonTokens]
  grouping columns value f table rows some apart := by
    refine ⟨groupsOf columns rows, groups_groupsOf columns rows, ?_⟩
    have read := items?_select (table ++ (" GROUP BY " ++ (nameList columns ++ (" ORDER BY " ++
        commaSeparated (columns.map fun c => quoteName c ++ " ASC")))))
      (by simp : columns ++ [value] ≠ []) fun name _ => Aggregation.isItem value f name
    rw [Aggregation.map_itemSql f apart] at read
    have several : ((columns ++ [value]).map (Aggregation.itemTokens value f)).length ≠ 1 := by
      simpa using some
    simp only [String.append_assoc] at read ⊢
    simp only [answerByList, read, if_neg several, readGrouping?_items]
    exact .refl _

def markedSchema : Schema :=
  [⟨"x", "VARCHAR"⟩, ⟨"note", "VARCHAR"⟩, ⟨"y", "DOUBLE"⟩, ⟨"series", "VARCHAR"⟩]

/-- Two bars without a category, which their series tells apart. -/
def markedRows : List Record :=
  [fun name => if name = "series" then .text "a" else if name = "y" then .real (.finite false 3 0)
      else .null,
    fun name => if name = "series" then .text "b" else .null]

theorem markedRows_stay_single :
    let query := "SELECT (count(DISTINCT row(\"x\", \"series\")) = count(*)) AS " ++
      quoteName Names.verdict ++ " FROM " ++ quoteName "t"
    Lawful answerByList foldOne ∧
      Probe.sql? (Probe.columns .barY markedSchema) (quoteName "t") = some query ∧
      answerByList query markedRows = [[.truth true]] ∧
      ∃ text, (Aggregation.query .barY markedSchema .sum (quoteName "t")).sql = .ok text ∧
        (answerByList text markedRows).Perm
          [[.null, .null, .text "a", .real (.finite false 3 0)], [.null, .null, .text "b", .null]] := by
  intro query
  have columns : Probe.columns .barY markedSchema = ["x", "series"] := by decide
  have sent : Probe.sql? (Probe.columns .barY markedSchema) (quoteName "t") = some query := by
    rw [columns]
    rfl
  have answered : answerByList query markedRows = [[.truth true]] :=
    (lawful_answerByList.distinct ["x", "series"] Names.verdict (quoteName "t") markedRows
      (by decide)).2 (by decide)
  obtain ⟨-, -, result⟩ := distinct_rows_stay_single lawful_answerByList sent answered
  exact ⟨lawful_answerByList, sent, answered, result .sum⟩

end ChartQuery
