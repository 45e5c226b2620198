import ChartQuery.Proofs.Run.Stages

/-!
# The script of a run

What a complete run sends is settled by the request, by the tables that the run
takes, and by two replies: the description of the reshaped table, and the answer
to the probe. `Request.script` writes it down.
-/

namespace ChartQuery

open Program Text Event

/-- The statements of a complete run. -/
structure Script where
  preQuery : Option Statement
  source : Statement
  reshape : Statement
  reshaped : Statement
  probe : Option Statement
  final : Statement

def Script.statements (script : Script) : List Statement :=
  script.preQuery.toList ++ [script.source, script.reshape, script.reshaped] ++
    script.probe.toList ++ [script.final]

namespace Request

variable (request : Request) (mark : Mark)

/-- What a reply tells, or a default if it is missing or cannot be read. -/
def heard {α : Type} (read : Frame → Except Error α) (default : α) : Option Reply → α
  | some reply =>
    match reply.bind read with
    | .ok a => a
    | .error _ => default
  | none => default

def opening : Nat := request.effectivePreQuery.toList.length

/-- The schema that the reshaped table is described to have. -/
def described (replies : List Reply) : Schema :=
  heard Schema.ofDescription [] replies[request.opening + 2]?

def foundDistinct (replies : List Reply) : Bool :=
  if (Probe.columns mark (request.described replies)).isEmpty then false
  else heard Probe.verdict false replies[request.opening + 3]?

def decided (replies : List Reply) : Option Aggregate :=
  Aggregation.choose mark (Reshape.plan mark request.encoding).encoding
    (request.foundDistinct mark replies) request.aggregate

def sourceReference (opened : TempTable) : String :=
  match request.effectivePreQuery with
  | some _ => quoteName opened.name
  | none => tableReference request.catalog request.table

def tables (opened reshaped : TempTable) : List TempTable :=
  (request.effectivePreQuery.map fun _ => opened).toList ++ [reshaped]

/-- The statements of a complete run that takes these tables and is given these
replies. -/
def script (opened reshaped : TempTable) (replies : List Reply) : Script :=
  let source := request.sourceReference opened
  let table := quoteName reshaped.name
  let schema := request.described replies
  { preQuery := request.effectivePreQuery.map fun query => preQueryStatement query opened
    source := .describe source
    reshape := request.reshapeStatement mark source reshaped
    reshaped := .describe table
    probe := (Probe.sql? (Probe.columns mark schema) table).map .select
    final := .select (finalText mark schema table (request.decided mark replies)) }

variable {request mark}

/-- The probe is there exactly if a role that identifies a mark has a column. -/
theorem script_probe_isSome (opened reshaped : TempTable) (replies : List Reply) :
    (request.script mark opened reshaped replies).probe.isSome ↔
      ∃ role ∈ mark.identifyingRoles, (request.described replies).has role.field := by
  rw [script, Option.isSome_map, Probe.sql?]
  split
  · rename_i empty
    simp only [Probe.columns, List.isEmpty_iff, List.filter_eq_nil_iff] at empty
    simp only [Option.isSome_none, Bool.false_eq_true, false_iff]
    rintro ⟨role, mem, has⟩
    exact empty _ (List.mem_map_of_mem mem) has
  · rename_i some
    simp only [Probe.columns, List.isEmpty_iff, List.filter_eq_nil_iff] at some
    simpa using some

/-- The final statement is the aggregate query exactly when an aggregate is
chosen. -/
theorem script_final (opened reshaped : TempTable) (replies : List Reply) :
    let table := quoteName reshaped.name
    let schema := request.described replies
    let final := (request.script mark opened reshaped replies).final
    (∀ f, request.decided mark replies = some f →
      (Aggregation.query mark schema f table).sql = .ok final.sql) ∧
    (request.decided mark replies = none → final.sql = "SELECT * FROM " ++ table ∧
      ∀ f, (Aggregation.query mark schema f table).sql ≠ .ok final.sql) := by
  intro table schema final
  have sql (f : Aggregate) := Aggregation.sql_query mark schema f (firm_quoteName reshaped.name)
  have text : final.sql = finalText mark schema table (request.decided mark replies) := rfl
  constructor
  · intro f chosen
    rw [sql, text, chosen]
    rfl
  · intro none
    have plain : final.sql = "SELECT * FROM " ++ table := by
      rw [text, none]
      rfl
    refine ⟨plain, fun f same => ?_⟩
    rw [sql, plain] at same
    exact Aggregation.body_ne_everything mark schema f table table (Except.ok.inj same)

end Request

end ChartQuery
