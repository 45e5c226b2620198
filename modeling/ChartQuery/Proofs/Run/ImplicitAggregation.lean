import ChartQuery.Proofs.Plan.GroupingKey
import ChartQuery.Proofs.Plan.Skipping
import ChartQuery.Proofs.Run.FaithfulEngine
import ChartQuery.Proofs.Run.Sending

/-!
# Aggregation by itself

A request that chooses no aggregate may still have its values folded. The decision is
taken on the columns of the roles, and the groups are taken from what the engine tells of
the reshaped table. If it tells the fields that the table was made with, then whatever is
folded is grouped by the categories or by the facet, so that no run folds a whole table
into one row by itself.

Main statement: `implicit_aggregation_keeps_groups`.
-/

namespace ChartQuery

open Program Event SelectList

/-- Without a choice of the caller's, values are summed if the rows are not distinct, the
mark allows it, there is something to group by, and there are values. -/
theorem Aggregation.choose_none (mark : Mark) (encoding : Encoding) (distinct : Bool) :
    choose mark encoding distinct none =
      if distinct = false ∧ mark.allowsAggregation ∧ hasGroupingKey mark encoding ∧
        Encoding.isSet encoding mark.valueAxis then some .sum else none := by
  simp only [choose, Option.isSome_none, Bool.or_false, Option.getD_none, Bool.and_eq_true,
    Bool.not_eq_true', and_assoc]
  rfl

/-- What there is to group by is among the groups if the table has the fields of the
roles that have columns. -/
theorem Aggregation.key_mem_groupColumns {mark : Mark} {encoding : Encoding} {schema : Schema}
    (allowed : mark.allowsAggregation) (key : hasGroupingKey mark encoding)
    (fields : ∀ role, encoding.get role ≠ [] → role.field ∈ schema.names) :
    mark.categoryAxis.field ∈ groupColumns mark schema ∨
      Role.fx.field ∈ groupColumns mark schema := by
  have group {role : Role} (other : role ≠ mark.valueAxis) (set : encoding.get role ≠ []) :
      role.field ∈ groupColumns mark schema := by
    have apart : role.field ≠ mark.valueAxis.field := fun same => other (Role.field_injective same)
    simpa [groupColumns, apart] using fields role set
  have facet : .fx ≠ mark.valueAxis := by cases mark <;> decide
  exact ((hasGroupingKey_iff allowed).1 key).imp (group mark.valueAxis_ne_categoryAxis.symm)
    (group facet)

def groupedSum (groups : List String) (value table : String) : String :=
  "SELECT " ++ commaSeparated (groups.map quoteName ++
      [Aggregate.expression .sum (quoteName value) ++ " AS " ++ quoteName value]) ++
    " FROM " ++ table ++ " GROUP BY " ++ nameList groups ++ " ORDER BY " ++
    commaSeparated (groups.map fun name => quoteName name ++ " ASC")

/-- The reshaped table is described with exactly the fields that its query lists. -/
def Request.DescribesFields (request : Request) (log : List Exchange) : Prop :=
  ∀ table query made reference frame schema,
    log[request.opening + 1]? = some ⟨.create table query, made⟩ →
    log[request.opening + 2]? = some ⟨.describe reference, .ok frame⟩ →
    Schema.ofDescription frame = .ok schema →
    ∀ name, name ∈ schema.names ↔ name ∈ (columns? query).getD []

/-- Values are summed in groups, after a log, in the table that a query has made. -/
structure SumsInGroups (mark : Mark) (log : List Exchange) (query : String)
    (groups : List String) : Prop where
  allowed : mark.allowsAggregation
  /-- The probe, if there was one, has found rows that are not distinct. -/
  repeated : ∀ text reply, ⟨.select text, reply⟩ ∈ log →
    ∃ frame, reply = .ok frame ∧ Probe.verdict frame = .ok false
  key : mark.categoryAxis.field ∈ groups ∨ Role.fx.field ∈ groups
  apart : mark.valueAxis.field ∉ groups
  value : ∃ fields, columns? query = some fields ∧ mark.valueAxis.field ∈ fields

namespace Request

variable {request : Request} {mark : Mark} {log : List Exchange} {table : TempTable}
  {schema : Schema}

theorem KnowsVerdict.entries {distinct : Bool}
    (known : request.KnowsVerdict mark table schema distinct log)
    (placed : WellPlaced mark request.encoding) :
    ∃ query made frame,
      (∀ more, (log ++ more)[request.opening + 1]? = some ⟨.create table.name query, made⟩ ∧
        (log ++ more)[request.opening + 2]? =
          some ⟨.describe (quoteName table.name), .ok frame⟩) ∧
      Schema.ofDescription frame = .ok schema ∧
      columns? query = some ((Reshape.plan mark request.encoding).roles.map Role.field) := by
  obtain ⟨front, verdict, rfl, known, -⟩ := known.split
  obtain ⟨source, made, frame, entries, read⟩ := known.entries
  obtain ⟨query, create, listed⟩ := reshapeStatement_lists placed source table
  refine ⟨query, .ok made, frame, fun more => ?_, read, listed⟩
  rw [List.append_assoc, ← create]
  exact entries (verdict ++ more)

/-- Queries are sent after the reshaped table is made and described. -/
theorem MaySend.length_le {text : String} (may : request.MaySend mark log (.select text)) :
    request.opening + 3 ≤ log.length := by
  obtain ⟨table, schema, ⟨known, -⟩ | ⟨distinct, known, -⟩⟩ := may.of_select
  · exact Nat.le_of_eq known.length.symm
  · obtain ⟨front, verdict, rfl, known, -⟩ := known.split
    rw [List.length_append, ← known.length]
    exact Nat.le_add_right ..

/-- A query that is no probe is the final one. -/
theorem MaySend.eq_final {text : String} (may : request.MaySend mark log (.select text))
    (other : columns? text ≠ some [Names.verdict]) :
    ∃ table schema distinct, request.KnowsVerdict mark table schema distinct log ∧
      text = finalText mark schema (quoteName table.name) (request.aggregateFor mark distinct) := by
  obtain ⟨table, schema, ⟨-, asked⟩ | ⟨distinct, final⟩⟩ := may.of_select
  · exact absurd (Probe.columns?_sql asked) other
  · exact ⟨table, schema, distinct, final⟩

/-- Nothing but the probe has been asked about rows that count as not distinct. -/
theorem KnowsVerdict.repeated (known : request.KnowsVerdict mark table schema false log)
    (sent : ∀ before exchange after, log = before ++ exchange :: after →
      request.MaySend mark before exchange.statement)
    {text : String} {reply : Reply} (mem : ⟨.select text, reply⟩ ∈ log) :
    ∃ frame, reply = .ok frame ∧ Probe.verdict frame = .ok false := by
  obtain ⟨before, after, split⟩ := List.append_of_mem mem
  have late := (sent before _ after split).length_le
  obtain ⟨front, verdict, rfl, known, found⟩ := known.split
  rw [← known.length] at late
  have last : ⟨.select text, reply⟩ ∈ verdict := by
    obtain ⟨rest, rfl⟩ : front <+: before :=
      List.prefix_of_prefix_length_le ⟨verdict, rfl⟩ ⟨_, split.symm⟩ late
    rw [List.append_assoc, List.append_cancel_left_eq] at split
    simp [split]
  obtain ⟨rfl, -⟩ | ⟨query, frame, rfl, repeated⟩ := found
  · cases last
  · cases List.mem_singleton.1 last
    exact ⟨frame, rfl, repeated⟩

end Request

/-- Without a choice of the caller's, and if the reshaped table is described with the
fields that it was made with, the only query besides the probe asks for the whole table,
or for the sums of its values, grouped by at least the categories or the facet. -/
theorem implicit_aggregation_keeps_groups {names : TypeNames} {request : Request} {mark : Mark}
    {session : String} {events : List Event} {result : Except Error Prepared}
    {before after : List Exchange} {text : String} {reply : Reply}
    (valid : request.validate = .ok mark) (noChoice : request.aggregate = none)
    (run : Steps session (request.prepare names) events (done result))
    (describes : request.DescribesFields (exchanges (withoutDrops events)))
    (log : exchanges (withoutDrops events) = before ++ ⟨.select text, reply⟩ :: after)
    (other : columns? text ≠ some [Names.verdict]) :
    ∃ table query made, before[request.opening + 1]? = some ⟨.create table query, made⟩ ∧
      (text = "SELECT * FROM " ++ quoteName table ∨
        ∃ groups, text = groupedSum groups mark.valueAxis.field (quoteName table) ∧
          SumsInGroups mark before query groups) := by
  obtain ⟨-, placed⟩ := Request.validate_ok valid
  have sent (first : List Exchange) (exchange : Exchange) (last : List Exchange)
      (split : before = first ++ exchange :: last) :
      request.MaySend mark first exchange.statement := by
    rw [split, List.append_assoc] at log
    exact Request.maySend_of_log valid run log
  obtain ⟨table, schema, distinct, verdict, rfl⟩ :=
    (Request.maySend_of_log valid run log).eq_final other
  obtain ⟨query, made, frame, entries, read, listed⟩ := verdict.entries placed
  have created : before[request.opening + 1]? = some ⟨.create table.name query, made⟩ := by
    simpa using (entries []).1
  have fields : ∀ name, name ∈ schema.names ↔ name ∈ (columns? query).getD [] := by
    rw [log] at describes
    exact describes _ _ _ _ _ _ (entries _).1 (entries _).2 read
  have emitted (role : Role)
      (set : (Reshape.plan mark request.encoding).encoding.get role ≠ []) :
      role.field ∈ (Reshape.plan mark request.encoding).roles.map Role.field :=
    Reshape.field_mem_iff.2 (Reshape.mem_roles_of_columns set)
  refine ⟨table.name, query, made, created, ?_⟩
  rw [Request.aggregateFor, noChoice, Aggregation.choose_none]
  split
  · rename_i conditions
    obtain ⟨rfl, allowed, key, values⟩ := conditions
    have keyed := Aggregation.key_mem_groupColumns allowed key fun role set =>
      (fields role.field).2 (by rw [listed]; exact emitted role set)
    have some : Aggregation.groupColumns mark schema ≠ [] :=
      keyed.elim List.ne_nil_of_mem List.ne_nil_of_mem
    refine .inr ⟨Aggregation.groupColumns mark schema, ?_, ?_⟩
    · exact Aggregation.body_eq_grouping mark schema .sum (firm_quoteName table.name) some
    · exact {
        allowed
        repeated := fun _ _ => verdict.repeated sent
        key := keyed
        apart := Aggregation.value_notMem_groupColumns mark schema
        value := ⟨_, listed, emitted mark.valueAxis (Encoding.isSet_iff.1 values)⟩ }
  · exact .inl rfl

theorem Faithful.describesFields {request : Request} {log : List Exchange}
    (faithful : Faithful request log) : request.DescribesFields log := by
  intro table query made reference frame schema created described read
  obtain ⟨columns, description, exact⟩ := faithful.reshaped _ _ _ _ _ created described
  obtain ⟨schema', read', names⟩ := description.read
  cases Except.ok.inj (read.symm.trans read')
  rw [names]
  exact exact

/-- The rows of `sales` that a faithful engine finds not distinct are summed in groups. -/
theorem faithfulSales_keep_groups :
    sales.validate = .ok .barY ∧ sales.aggregate = none ∧ ∃ events result,
      Steps "s" (sales.prepare .duckdb) events (done result) ∧
      sales.DescribesFields (exchanges (withoutDrops events)) ∧
      columns? salesFinal ≠ some [Names.verdict] ∧
      ∃ before reply after,
        exchanges (withoutDrops events) = before ++ ⟨.select salesFinal, reply⟩ :: after ∧
        ∃ table query groups, salesFinal = groupedSum groups "y" (quoteName table) ∧
          SumsInGroups .barY before query groups := by
  have other : columns? salesFinal ≠ some [Names.verdict] := by simp [columns?_salesFinal]
  obtain ⟨events, steps, log⟩ := steps_work faithfulSales (sales.prepare .duckdb) {}
  have describes : sales.DescribesFields (exchanges (withoutDrops events)) :=
    log ▸ faithful_sales.describesFields
  rw [work_faithfulSales] at log
  have last : exchanges (withoutDrops events) = [_, _, _, _, _] ++ ⟨.select salesFinal, _⟩ :: [] :=
    log
  obtain ⟨table, query, made, -, everything | ⟨groups, sums, grouped⟩⟩ :=
    implicit_aggregation_keeps_groups rfl rfl steps describes last other
  · have listed := columns?_salesFinal
    rw [everything, columns?_everything] at listed
    cases listed
  · exact ⟨rfl, rfl, events, _, steps, describes, other, _, _, _, last, table, query, groups, sums,
      grouped⟩

end ChartQuery
