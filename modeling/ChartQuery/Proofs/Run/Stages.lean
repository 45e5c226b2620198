import ChartQuery.Proofs.Program.Discipline
import ChartQuery.Proofs.Sql.Sources
import ChartQuery.Run.Prepare

/-!
# The stages of a run

The three stages of a run in terms of what a program can do: take a table, look
whether it is cancelled, and consult the engine.
-/

namespace ChartQuery

open Program Text

namespace Program

/-- The schema in a description of a table that has every column of an encoding. -/
def checkSource (reference : String) (encoding : Encoding) (frame : Frame) :
    Except Error Schema := do
  let schema ← Schema.ofDescription frame
  let missing := schema.missing (Encoding.columns encoding)
  if missing.isEmpty then return schema else .error (.schema reference missing)

theorem describe_eq (reference : String) :
    describe reference = consult (.describe reference) Schema.ofDescription :=
  ask_bind_done ..

theorem validateSource_eq (reference : String) (encoding : Encoding) :
    validateSource reference encoding =
      consult (.describe reference) (checkSource reference encoding) := by
  rw [← ask_bind_done, validateSource, bind_eq, describe, bind_eq, bind_assoc]
  congr
  funext frame
  cases h : Schema.ofDescription frame with
  | error e => simp [ofExcept, checkSource, h, Bind.bind, Except.bind]
  | ok schema =>
    simp only [ofExcept, bind_ok, checkSource, h, Bind.bind, Except.bind]
    split <;> rfl

theorem isDistinct_eq (mark : Mark) (schema : Schema) (table : String) :
    isDistinct mark schema table =
      match Probe.sql? (Probe.columns mark schema) table with
      | none => done (.ok false)
      | some query => consult (.select query) Probe.verdict := by
  unfold isDistinct
  cases Probe.sql? (Probe.columns mark schema) table with
  | none => rfl
  | some query => exact ask_bind_done ..

end Program

namespace Request

variable (names : TypeNames) (request : Request) (mark : Mark)

def preQueryStatement (query : String) (table : TempTable) : Statement :=
  .create table.name (withoutTerminators query)

def reshapeStatement (source : String) (table : TempTable) : Statement :=
  let plan := Reshape.plan mark request.encoding
  .create table.name
    ("SELECT " ++ (plan.query source).selectList ++ " FROM " ++ plan.sourceSql source)

def aggregateFor (distinct : Bool) : Option Aggregate :=
  Aggregation.choose mark (Reshape.plan mark request.encoding).encoding distinct request.aggregate

/-- The query for the data: the aggregate query if there is an aggregate, and
otherwise everything. -/
def finalText (schema : Schema) (table : String) : Option Aggregate → String
  | some f => (Aggregation.query mark schema f table).body table
  | none => "SELECT * FROM " ++ table

def resultSchema (schema : Schema) : Option Aggregate → Schema
  | some f => Aggregation.resultSchema mark schema f
  | none => schema

def readData (schema : Schema) (distinct : Bool) (frame : Frame) : Except Error ChartData :=
  let plan := Reshape.plan mark request.encoding
  let aggregate := request.aggregateFor mark distinct
  ChartData.ofFrame frame (resultSchema mark schema aggregate) names
    (Labels.infer mark plan.encoding plan.shape aggregate request.labels)

def prepared (preQuery : Option String) (table : Reshaped) (distinct : Bool) (data : ChartData) :
    Prepared where
  data
  description :=
    (preQuery.map fun _ => "Ran pre-query into a temporary table").toList ++
      [(Reshape.plan mark request.encoding).description,
        Probe.description (Probe.columns mark table.schema) distinct,
        Aggregation.description mark table.schema (request.aggregateFor mark distinct)]
  queries :=
    { preQuery
      reshape := table.statement
      final := finalText mark table.schema table.reference (request.aggregateFor mark distinct) }

theorem openSource_eq :
    request.openSource =
      match request.effectivePreQuery with
      | none => done (.ok (tableReference request.catalog request.table, none))
      | some query => (temp .preQuery).bind fun table => checkpoint.bind fun _ =>
          (consult (preQueryStatement query table) .ok).bind fun _ =>
            done (.ok (quoteName table.name, some (preQueryStatement query table).sql)) := by
  unfold openSource
  cases request.effectivePreQuery with
  | none => rfl
  | some query =>
    simp only [execute, bind_eq, pure_eq, bind_assoc, ← ask_bind_done]
    rfl

def reshaping (source : String) : Program Reshaped :=
  checkpoint.bind fun _ =>
    (consult (.describe source) (checkSource source request.encoding)).bind fun _ =>
      (temp .reshape).bind fun table => checkpoint.bind fun _ =>
        (consult (request.reshapeStatement mark source table) .ok).bind fun _ =>
          checkpoint.bind fun _ =>
            (consult (.describe (quoteName table.name)) Schema.ofDescription).bind fun schema =>
              done (.ok
                { reference := quoteName table.name, schema
                  statement := (request.reshapeStatement mark source table).sql })

theorem reshape_eq {source : String} (h : Firm source) :
    request.reshape mark source = request.reshaping mark source := by
  unfold reshape reshaping
  simp only [execute, bind_eq, pure_eq, bind_assoc, ← ask_bind_done, describe_eq,
    validateSource_eq, Reshape.sql_query _ h, Program.ofExcept, bind_ok]
  rfl

theorem finalQuery_eq (schema : Schema) (aggregate : Option Aggregate) {table : String}
    (h : Firm table) :
    (finalQuery mark schema aggregate table).1.sql = .ok (finalText mark schema table aggregate) ∧
      (finalQuery mark schema aggregate table).2 = resultSchema mark schema aggregate := by
  cases aggregate with
  | none => exact ⟨Select.sql_everything h, rfl⟩
  | some f => exact ⟨Aggregation.sql_query mark schema f h, rfl⟩

def finishing (preQuery : Option String) (table : Reshaped) : Program Prepared :=
  checkpoint.bind fun _ =>
    (isDistinct mark table.schema table.reference).bind fun distinct =>
      checkpoint.bind fun _ =>
        (consult (.select (finalText mark table.schema table.reference
            (request.aggregateFor mark distinct)))
          (request.readData names mark table.schema distinct)).bind fun data =>
            done (.ok (request.prepared mark preQuery table distinct data))

theorem finish_eq (preQuery : Option String) (table : Reshaped) (h : Firm table.reference) :
    request.finish names mark preQuery table = request.finishing names mark preQuery table := by
  unfold finish finishing
  simp only [execute, bind_eq, pure_eq, bind_assoc, ← ask_bind_done]
  congr
  funext _
  congr
  funext distinct
  obtain ⟨text, schema⟩ := finalQuery_eq mark table.schema (request.aggregateFor mark distinct) h
  simp only [aggregateFor] at text schema
  rw [text, schema]
  rfl

theorem openSource_yields : request.openSource.Yields fun opened => Firm opened.1 := by
  rw [openSource_eq]
  cases request.effectivePreQuery with
  | none =>
    intro opened same
    cases same
    exact firm_tableReference ..
  | some query =>
    apply yields_bind
    intro table
    apply yields_bind
    intro _
    apply yields_bind
    intro frame opened same
    rw [← Except.ok.inj same]
    exact firm_quoteName table.name

theorem reshaping_yields (source : String) :
    (request.reshaping mark source).Yields fun table => Firm table.reference := by
  unfold reshaping
  apply yields_bind
  intro _
  apply yields_bind
  intro schema
  apply yields_bind
  intro reshaped
  apply yields_bind
  intro _
  apply yields_bind
  intro frame
  apply yields_bind
  intro _
  apply yields_bind
  intro schema table same
  rw [← Except.ok.inj same]
  exact firm_quoteName reshaped.name

/-- The run in terms of what a program can do. -/
theorem steps_eq :
    request.steps names mark =
      request.openSource.bind fun opened =>
        (request.reshaping mark opened.1).bind fun table =>
          request.finishing names mark opened.2 table := by
  unfold steps
  apply bind_congr request.openSource_yields
  intro opened firm
  change (request.reshape mark opened.1).bind _ = _
  rw [reshape_eq request mark firm]
  apply bind_congr (request.reshaping_yields mark opened.1)
  intro table firm
  exact finish_eq names request mark opened.2 table firm

end Request

end ChartQuery
