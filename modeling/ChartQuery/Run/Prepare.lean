import ChartQuery.Data.ChartData
import ChartQuery.Plan.Aggregation
import ChartQuery.Plan.AxisLabels
import ChartQuery.Plan.Probe
import ChartQuery.Plan.Reshape
import ChartQuery.Request.Validation
import ChartQuery.Run.Program

/-!
# Preparing chart data

The statements of a run, in order: the pre-query if there is one, a description
of the source, the reshaped table, its description, the probe for distinct rows
if there is anything to probe, and the final query. The first failure ends the
run. Temporary tables are dropped whatever the outcome.
-/

namespace ChartQuery

/-- The statements of a run that made or read a table, as they were sent. -/
structure Queries where
  preQuery : Option String
  reshape : String
  final : String
  deriving DecidableEq, Repr

structure Prepared where
  data : ChartData
  /-- What the run did, step by step. -/
  description : List String
  queries : Queries
  deriving DecidableEq, Repr

namespace Prepared

def toJson (prepared : Prepared) : Json :=
  .object
    [("data", prepared.data.toJson),
      ("description", .string (String.intercalate "\n" prepared.description)),
      ("queries", .ofPresent
        [("preQuery", prepared.queries.preQuery.map .string),
          ("transform", some (.string prepared.queries.reshape)),
          ("final", some (.string prepared.queries.final))])]

end Prepared

namespace Program

variable {α : Type}

def ofExcept (value : Except Error α) : Program α := done value

def describe (reference : String) : Program Schema := do
  ofExcept (Schema.ofDescription (← ask (.describe reference)))

def validateSource (reference : String) (encoding : Encoding) : Program Schema := do
  let schema ← describe reference
  let missing := schema.missing (Encoding.columns encoding)
  if missing.isEmpty then return schema
  else done (.error (.schema reference missing))

def isDistinct (mark : Mark) (schema : Schema) (table : String) : Program Bool :=
  match Probe.sql? (Probe.columns mark schema) table with
  | none => return false
  | some query => do ofExcept (Probe.verdict (← ask (.select query)))

end Program

namespace Request

open Program

def withoutTerminators (query : String) : String :=
  String.ofList (Text.dropEnd (· == ';') query.toList)

/-- The source of a request as SQL, and the statement that made it if there is a
pre-query. -/
def openSource (request : Request) : Program (String × Option String) :=
  match request.effectivePreQuery with
  | none => return (tableReference request.catalog request.table, none)
  | some query => do
    let table ← temp .preQuery
    let statement := Statement.create table.name (withoutTerminators query)
    let _ ← execute statement
    return (quoteName table.name, some statement.sql)

def finalQuery (mark : Mark) (schema : Schema) (aggregate : Option Aggregate) (table : String) :
    Select × Schema :=
  match aggregate with
  | some f => (Aggregation.query mark schema f table, Aggregation.resultSchema mark schema f)
  | none => ({ source := some table }, schema)

/-- The reshaped table: its name as SQL, its columns, and the statement that made it. -/
structure Reshaped where
  reference : String
  schema : Schema
  statement : String
  deriving DecidableEq, Repr

def reshape (request : Request) (mark : Mark) (source : String) : Program Reshaped := do
  checkpoint
  let _ ← validateSource source request.encoding
  let table ← temp .reshape
  let query ← ofExcept ((Reshape.plan mark request.encoding).query source).sql
  let statement := Statement.create table.name query
  let _ ← execute statement
  checkpoint
  let schema ← describe (quoteName table.name)
  return { reference := quoteName table.name, schema, statement := statement.sql }

def finish (names : TypeNames) (request : Request) (mark : Mark) (preQuery : Option String)
    (table : Reshaped) : Program Prepared := do
  let plan := Reshape.plan mark request.encoding
  checkpoint
  let distinct ← isDistinct mark table.schema table.reference
  let aggregate := Aggregation.choose mark plan.encoding distinct request.aggregate
  let (query, resultSchema) := finalQuery mark table.schema aggregate table.reference
  let final := Statement.select (← ofExcept query.sql)
  let frame ← execute final
  let labels := Labels.infer mark plan.encoding plan.shape aggregate request.labels
  let data ← ofExcept (ChartData.ofFrame frame resultSchema names labels)
  return {
    data
    description :=
      (preQuery.map fun _ => "Ran pre-query into a temporary table").toList ++
        [plan.description, Probe.description (Probe.columns mark table.schema) distinct,
          Aggregation.description mark table.schema aggregate]
    queries := { preQuery, reshape := table.statement, final := final.sql } }

/-- A run of a request whose mark is known to be valid, without the cleanup. -/
def steps (names : TypeNames) (request : Request) (mark : Mark) : Program Prepared := do
  let (source, preQuery) ← request.openSource
  let table ← request.reshape mark source
  request.finish names mark preQuery table

/-- The run of a request. A request that breaks a rule sends no statement. -/
def prepare (names : TypeNames) (request : Request) : Program Prepared :=
  match request.validate with
  | .error e => .done (.error e)
  | .ok mark => (request.steps names mark).withCleanup []

end Request

/-- Runs one after another, which share the numbers of temporary tables. -/
def prepareInTurn (names : TypeNames) (nextTable : Nat) :
    List (Request × Setting) → List (Outcome Prepared)
  | [] => []
  | (request, setting) :: rest =>
    let outcome := (request.prepare names).run setting { nextTable }
    outcome :: prepareInTurn names outcome.position.nextTable rest

end ChartQuery
