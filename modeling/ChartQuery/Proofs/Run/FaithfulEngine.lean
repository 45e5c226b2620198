import ChartQuery.Proofs.Plan.GroupingKey
import ChartQuery.Proofs.Run.Failures

/-!
# Faithful engines

A run can only fail because of the engine. An engine is faithful to a request if it
refuses nothing, if its source has the columns that the request asks for, and if the
tables and results that it describes and returns have the columns that the queries
list. The names of columns are read off the text of the statements, so that the
select list, the probe, the aggregate query and the schema of the result have to
agree on them.

Main statement: `faithful_run_succeeds`.
-/

namespace ChartQuery

open Program Event SelectList Text

/-- A description of a table with these columns. It may tell any types. -/
structure Describes (frame : Frame) (columns : List String) : Prop where
  names : frame.column? "column_name" = some ⟨"column_name", .texts (columns.map some)⟩
  types : ∃ types, types.length = columns.length ∧
    frame.column? "column_type" = some ⟨"column_type", .texts types⟩

/-- The replies of an engine that is faithful to a request. The log has the
statements of a run but its drops. -/
structure Faithful (request : Request) (log : List Exchange) : Prop where
  /-- No statement is refused. -/
  accepts : ∀ exchange ∈ log, ∃ frame, exchange.reply = .ok frame
  /-- The source has every column that the request asks for. -/
  source : ∀ reference frame, log[request.opening]? = some ⟨.describe reference, .ok frame⟩ →
    ∃ columns, Describes frame columns ∧ Encoding.columns request.encoding ⊆ columns
  /-- The reshaped table has exactly the columns that its query lists. -/
  reshaped : ∀ table query made reference frame,
    log[request.opening + 1]? = some ⟨.create table query, made⟩ →
    log[request.opening + 2]? = some ⟨.describe reference, .ok frame⟩ →
    ∃ columns, Describes frame columns ∧
      ∀ name, name ∈ columns ↔ name ∈ (columns? query).getD []
  /-- A probe is answered with one verdict. -/
  probe : ∀ query frame, ⟨.select query, .ok frame⟩ ∈ log →
    columns? query = some [Names.verdict] →
    ∃ verdict, frame.column? Names.verdict = some ⟨Names.verdict, .truths [some verdict]⟩
  /-- Any other query returns the columns that it lists, or those of the reshaped
  table if it lists none. -/
  final : ∀ query frame, ⟨.select query, .ok frame⟩ ∈ log →
    columns? query ≠ some [Names.verdict] → ∀ reference description columns,
    log[request.opening + 2]? = some ⟨.describe reference, .ok description⟩ →
    Describes description columns →
    ∀ name, name ∈ frame.map Column.name ↔ name ∈ (columns? query).getD columns

section Readings

variable {frame : Frame} {columns : List String}

theorem Describes.read (h : Describes frame columns) :
    ∃ schema, Schema.ofDescription frame = .ok schema ∧ schema.names = columns := by
  obtain ⟨types, length, typed⟩ := h.types
  refine ⟨Schema.ofColumns (columns.map some) types, ?_, ?_⟩
  · simp [Schema.ofDescription, Schema.textColumn, h.names, typed, Bind.bind, Except.bind]
    rfl
  · clear h typed
    induction columns generalizing types with
    | nil => rfl
    | cons name columns ih =>
      cases types with
      | nil => cases length
      | cons type types =>
        have rest := ih types (by simpa using length)
        simpa [Schema.ofColumns, Schema.names] using rest

theorem checkSource_of_describes (reference : String) {encoding : Encoding}
    (h : Describes frame columns) (all : Encoding.columns encoding ⊆ columns) :
    ∃ schema, checkSource reference encoding frame = .ok schema := by
  obtain ⟨schema, read, names⟩ := h.read
  have none : schema.missing (Encoding.columns encoding) = [] := by
    refine List.filter_eq_nil_iff.2 fun name mem => ?_
    have here := Schema.has_eq_true.2 (names ▸ all mem)
    simp [here]
  exact ⟨schema, by simp [checkSource, read, none, Bind.bind, Except.bind]; rfl⟩

theorem verdict_of_column {verdict : Bool}
    (h : frame.column? Names.verdict = some ⟨Names.verdict, .truths [some verdict]⟩) :
    Probe.verdict frame = .ok verdict := by
  rw [Probe.verdict, h]

end Readings

namespace Request

variable {request : Request} {mark : Mark} {names : TypeNames}

/-- Events in which no cancellation is found, and with replies that are faithful. -/
structure Trusted (request : Request) (events : List Event) : Prop where
  goes : .look true ∉ events
  faithful : Faithful request (exchanges events)

/-- The statement for the reshaped table makes it with the fields of the plan. -/
theorem reshapeStatement_lists (placed : WellPlaced mark request.encoding) (source : String)
    (table : TempTable) :
    ∃ query, request.reshapeStatement mark source table = .create table.name query ∧
      columns? query = some ((Reshape.plan mark request.encoding).roles.map Role.field) :=
  ⟨_, rfl, Reshape.columns?_query _ placed.items_ne_nil source _⟩

section Table

variable {table : TempTable} {schema : Schema} {log more : List Exchange}

/-- A faithful engine has described the fields of the plan, and returns what its
queries list. -/
theorem KnowsTable.columns (known : request.KnowsTable mark table schema log)
    (placed : WellPlaced mark request.encoding) (faithful : Faithful request (log ++ more)) :
    (∀ name, name ∈ schema.names ↔
      name ∈ (Reshape.plan mark request.encoding).roles.map Role.field) ∧
    ∀ query frame, ⟨.select query, .ok frame⟩ ∈ log ++ more →
      columns? query ≠ some [Names.verdict] →
      ∀ name, name ∈ frame.map Column.name ↔ name ∈ (columns? query).getD schema.names := by
  obtain ⟨source, made, frame, entries, read⟩ := known.entries
  obtain ⟨query, create, listed⟩ := reshapeStatement_lists placed source table
  obtain ⟨created, described⟩ := entries more
  rw [create] at created
  obtain ⟨columns, description, exact⟩ := faithful.reshaped _ _ _ _ _ created described
  obtain ⟨schema', read', names⟩ := description.read
  cases Except.ok.inj (read'.symm.trans read)
  rw [listed, Option.getD_some] at exact
  refine ⟨by rw [names]; exact exact, fun query frame mem other => ?_⟩
  rw [names]
  exact faithful.final query frame mem other _ _ columns described description

/-- An aggregate is chosen only if the reshaped table has the value. -/
theorem valueAxis_of_aggregateFor {distinct : Bool} {f : Aggregate}
    (chosen : request.aggregateFor mark distinct = some f) :
    mark.valueAxis ∈ (Reshape.plan mark request.encoding).roles :=
  Reshape.mem_roles_of_columns (Aggregation.values_of_choose chosen)

theorem mem_resultSchema {distinct : Bool}
    (fields : ∀ name, name ∈ schema.names ↔
      name ∈ (Reshape.plan mark request.encoding).roles.map Role.field) (name : String) :
    name ∈ (resultSchema mark schema (request.aggregateFor mark distinct)).names ↔
      name ∈ (Reshape.plan mark request.encoding).roles.map Role.field := by
  cases chosen : request.aggregateFor mark distinct with
  | none => exact fields name
  | some f =>
    have value := List.mem_map_of_mem (f := Role.field) (valueAxis_of_aggregateFor chosen)
    rw [resultSchema, Aggregation.names_resultSchema, Aggregation.groupColumns, List.mem_append,
      List.mem_filter, fields, List.mem_singleton]
    by_cases same : name = mark.valueAxis.field
    · simp [same, value]
    · simp [same]

theorem KnowsTable.readData (known : request.KnowsTable mark table schema log)
    (placed : WellPlaced mark request.encoding) (faithful : Faithful request (log ++ more))
    (distinct : Bool) (frame : Frame)
    (mem : ⟨.select (finalText mark schema (quoteName table.name)
      (request.aggregateFor mark distinct)), .ok frame⟩ ∈ log ++ more) :
    ∃ data, request.readData names mark schema distinct frame = .ok data ∧
      data.rows.length = frame.height ∧ data.types.present.map Prod.fst =
        (Reshape.plan mark request.encoding).roles.map Role.field := by
  have firm := firm_quoteName table.name
  obtain ⟨fields, returned⟩ := known.columns placed faithful
  have listed := returned _ frame mem (columns?_finalText_ne mark schema _ firm)
  rw [columns?_finalText mark schema _ firm] at listed
  obtain ⟨data, read, rows, types⟩ := ChartData.ofFrame_of_columns
    (Labels.infer mark (Reshape.plan mark request.encoding).encoding
      (Reshape.plan mark request.encoding).shape (request.aggregateFor mark distinct)
      request.labels) fun name mem => (listed name).2 mem
  refine ⟨data, read, rows, ?_⟩
  rw [FieldTypes.fields_present, Reshape.roles_eq_filter]
  congr 1
  refine List.filter_congr fun role _ => ?_
  rw [Bool.eq_iff_iff, types, mem_resultSchema fields, Option.isSome_iff_exists,
    ← Reshape.mem_roles]
  constructor
  · intro mem
    obtain ⟨other, mem, same⟩ := List.mem_map.1 mem
    rwa [← Role.field_injective same]
  · exact List.mem_map_of_mem

end Table

/-- The data of a run have the fields that its reshaped table was made with, and a
row for each row of its last reply. -/
structure Served (request : Request) (log : List Exchange) (prepared : Prepared) : Prop where
  fields : ∃ name query made, log[request.opening + 1]? = some ⟨.create name query, made⟩ ∧
    columns? query = some (prepared.data.types.present.map Prod.fst)
  rows : ∃ frame, log.getLast? = some ⟨.select prepared.queries.final, .ok frame⟩ ∧
    prepared.data.rows.length = frame.height

section Ends

variable {log : List Exchange}

/-- No reply of a faithful engine makes a run fail. -/
theorem Fails.not_faithful {e : Error} (fails : request.Fails mark names log e)
    (placed : WellPlaced mark request.encoding) : ¬Faithful request log := by
  intro faithful
  cases fails with
  | refused =>
    obtain ⟨frame, same⟩ := faithful.accepts _ (List.mem_append_right _ (List.mem_singleton_self _))
    cases same
  | @source front opened frame e opens failed =>
    obtain ⟨columns, description, all⟩ := faithful.source (request.sourceReference opened) frame (by
      simp [← opens.length])
    obtain ⟨schema, read⟩ := checkSource_of_describes _ description all
    rw [read] at failed
    cases failed
  | @reshaped front source table made frame e known failed =>
    obtain ⟨before, described, schema, rfl, length, -⟩ := known
    obtain ⟨query, create, -⟩ := reshapeStatement_lists placed source table
    obtain ⟨columns, description, -⟩ := faithful.reshaped table.name query (.ok made)
      (quoteName table.name) frame (by simp [← length, create]) (by simp [← length])
    obtain ⟨schema, read, -⟩ := description.read
    rw [read] at failed
    cases failed
  | @probe front table schema query frame e known asked failed =>
    obtain ⟨verdict, column⟩ := faithful.probe query frame (by simp) (Probe.columns?_sql asked)
    rw [verdict_of_column column] at failed
    cases failed
  | @final front table schema distinct frame e known failed =>
    obtain ⟨before, verdict, rfl, described, -⟩ := known.split
    rw [List.append_assoc] at faithful
    obtain ⟨data, read, -⟩ := described.readData placed faithful distinct frame (by simp)
    rw [read] at failed
    cases failed

/-- What a run returns for a faithful engine has the fields and the rows of its replies. -/
theorem Returns.served {prepared : Prepared} (returns : request.Returns mark names log prepared)
    (placed : WellPlaced mark request.encoding) (faithful : Faithful request log) :
    request.Served log prepared := by
  obtain ⟨_, table, schema, distinct, frame, known, final, rfl, read⟩ := returns
  obtain ⟨front, verdict, rfl, described, -⟩ := known.split
  rw [List.append_assoc] at faithful ⊢
  obtain ⟨data, read', rows, fields⟩ :=
    described.readData placed faithful distinct frame (by simp [final])
  cases Except.ok.inj (read'.symm.trans read)
  obtain ⟨source, made, description, entries, -⟩ := described.entries
  obtain ⟨query, create, listed⟩ := reshapeStatement_lists placed source table
  refine ⟨⟨table.name, query, .ok made, ?_, ?_⟩, frame, ?_, rows⟩
  · rw [← create]
    exact (entries _).1
  · rw [listed, fields]
  · rw [← List.append_assoc, List.getLast?_concat]

end Ends

theorem steps_trusted (placed : WellPlaced mark request.encoding) :
    Obeys .record (fun events result => request.Trusted events →
      ∃ prepared, result = .ok prepared ∧ request.Served (exchanges events) prepared)
      (request.steps names mark) [] := by
  refine (request.steps_sends [] rfl).mono (fun _ _ _ => trivial) rfl ?_
  rintro events (e | prepared) ends ⟨goes, faithful⟩
  · obtain cancelled | fails := ends
    · exact absurd cancelled goes
    · exact absurd faithful (fails.not_faithful placed)
  · exact ⟨prepared, rfl, Returns.served ends placed faithful⟩

end Request

/-- A run of a valid request that is not cancelled returns data if the engine is
faithful. The data have exactly the fields that the reshaped table was made with, and
as many rows as the last reply. -/
theorem faithful_run_succeeds {names : TypeNames} {request : Request} {mark : Mark}
    {setting : Setting} {start : Position} (valid : request.validate = .ok mark)
    (never : setting.cancellation = .never)
    (faithful : Faithful request ((request.prepare names).run setting start).work) :
    ∃ prepared, ((request.prepare names).run setting start).result = .ok prepared ∧
      request.Served ((request.prepare names).run setting start).work prepared := by
  obtain ⟨events, steps, log, seen⟩ := steps_run setting (request.prepare names) start
  rw [never] at seen
  have goes := seen.goes
  rw [Outcome.work, ← log, ← exchanges_withoutDrops] at faithful ⊢
  generalize ((request.prepare names).run setting start).result = result at steps ⊢
  unfold Request.prepare at steps
  rw [valid] at steps
  obtain ⟨first, last, rfl, steps, drops, -⟩ := steps.withCleanup_done
  obtain ⟨keeps, -⟩ := Holdings.working_sent Holdings.steps_working steps
  rw [withoutDrops_append keeps drops] at faithful ⊢
  have ends := (Request.steps_trusted (Request.validate_ok valid).2).steps steps
  rw [Discipline.afterAll_record, List.nil_append] at ends
  exact ends ⟨fun mem => goes (List.mem_append_left _ mem), faithful⟩

/-- An engine that is faithful to `sales`, with rows that are not distinct. -/
def faithfulSales : Setting where
  engine := .ofReplies
    [.ok .empty,
      .ok (.ofTexts [("column_name", ["region", "amount"]), ("column_type", ["VARCHAR", "DOUBLE"])]),
      .ok .empty,
      .ok (.ofTexts [("column_name", ["x", "y"]), ("column_type", ["VARCHAR", "DOUBLE"])]),
      .ok [⟨Names.verdict, .truths [some false]⟩],
      .ok [⟨"x", .texts [some "North", some "South"]⟩, ⟨"y", .doubles [none, none]⟩]]
  session := "s"

def salesReshape : String :=
  "SELECT \"region\" AS \"x\", \"amount\" AS \"y\" FROM \"__sqlchart_tmp_prequery_s_0__\""

def salesProbe : String :=
  "SELECT (count(DISTINCT row(\"x\")) = count(*)) AS \"__sqlchart_is_distinct__\"" ++
    " FROM \"__sqlchart_tmp_transform_s_1__\""

def salesFinal : String :=
  "SELECT \"x\", sum(CAST(\"y\" AS DOUBLE)) AS \"y\" FROM \"__sqlchart_tmp_transform_s_1__\"" ++
    " GROUP BY \"x\" ORDER BY \"x\" ASC"

set_option maxRecDepth 8000 in
theorem work_faithfulSales : ((sales.prepare .duckdb).run faithfulSales {}).work =
    [⟨.create "__sqlchart_tmp_prequery_s_0__" "SELECT * FROM raw", .ok .empty⟩,
      ⟨.describe "\"__sqlchart_tmp_prequery_s_0__\"", .ok (.ofTexts
        [("column_name", ["region", "amount"]), ("column_type", ["VARCHAR", "DOUBLE"])])⟩,
      ⟨.create "__sqlchart_tmp_transform_s_1__" salesReshape, .ok .empty⟩,
      ⟨.describe "\"__sqlchart_tmp_transform_s_1__\"", .ok (.ofTexts
        [("column_name", ["x", "y"]), ("column_type", ["VARCHAR", "DOUBLE"])])⟩,
      ⟨.select salesProbe, .ok [⟨Names.verdict, .truths [some false]⟩]⟩,
      ⟨.select salesFinal,
        .ok [⟨"x", .texts [some "North", some "South"]⟩, ⟨"y", .doubles [none, none]⟩]⟩] := by
  rfl

theorem opening_sales : sales.opening = 1 := by decide +kernel

theorem columns?_salesReshape : columns? salesReshape = some ["x", "y"] := by decide +kernel

theorem columns?_salesFinal : columns? salesFinal = some ["x", "y"] := by decide +kernel

theorem select_faithfulSales {query : String} {frame : Frame}
    (mem : ⟨.select query, .ok frame⟩ ∈ ((sales.prepare .duckdb).run faithfulSales {}).work) :
    query = salesProbe ∧ frame = [⟨Names.verdict, .truths [some false]⟩] ∨
      query = salesFinal ∧ frame.map Column.name = ["x", "y"] := by
  rw [work_faithfulSales] at mem
  simp only [List.mem_cons, Exchange.mk.injEq, reduceCtorEq, false_and, false_or,
    Statement.select.injEq, Except.ok.injEq, List.not_mem_nil, or_false] at mem
  rcases mem with verdict | ⟨same, rfl⟩
  · exact .inl verdict
  · exact .inr ⟨same, rfl⟩

theorem faithful_sales : Faithful sales ((sales.prepare .duckdb).run faithfulSales {}).work := by
  have probe : columns? salesProbe = some [Names.verdict] := by decide +kernel
  constructor
  · rw [work_faithfulSales]
    simp
  · intro reference frame described
    rw [opening_sales, work_faithfulSales] at described
    cases described
    exact ⟨["region", "amount"], ⟨rfl, _, rfl, rfl⟩, by decide⟩
  · intro table query made reference frame created described
    rw [opening_sales, work_faithfulSales] at created described
    cases created
    cases described
    exact ⟨["x", "y"], ⟨rfl, _, rfl, rfl⟩, by simp [columns?_salesReshape]⟩
  · intro query frame mem asked
    rcases select_faithfulSales mem with ⟨rfl, rfl⟩ | ⟨rfl, -⟩
    · exact ⟨false, rfl⟩
    · simp [columns?_salesFinal] at asked
  · intro query frame mem other reference description columns _ _ name
    rcases select_faithfulSales mem with ⟨rfl, -⟩ | ⟨rfl, names⟩
    · exact absurd probe other
    · simp [columns?_salesFinal, names]

theorem faithfulSales_succeeds :
    sales.validate = .ok .barY ∧ faithfulSales.cancellation = .never ∧
      Faithful sales ((sales.prepare .duckdb).run faithfulSales {}).work ∧
      ∃ prepared, ((sales.prepare .duckdb).run faithfulSales {}).result = .ok prepared ∧
        prepared.data.types.present.map Prod.fst = ["x", "y"] ∧
        prepared.data.rows.length = 2 := by
  obtain ⟨prepared, result, served⟩ := faithful_run_succeeds rfl rfl faithful_sales
  rw [work_faithfulSales] at served
  obtain ⟨⟨name, query, made, created, listed⟩, frame, last, rows⟩ := served
  rw [opening_sales] at created
  cases created
  rw [columns?_salesReshape] at listed
  obtain ⟨-, reply⟩ := Exchange.mk.inj (Option.some.inj last)
  cases reply
  exact ⟨rfl, rfl, faithful_sales, prepared, result, (Option.some.inj listed).symm, rows⟩

end ChartQuery
