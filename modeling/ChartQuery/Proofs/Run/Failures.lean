import ChartQuery.Proofs.Data.Fields
import ChartQuery.Proofs.Plan.Items
import ChartQuery.Proofs.Program.Transparency
import ChartQuery.Proofs.Run.Following
import ChartQuery.Proofs.Run.Promptness
import ChartQuery.Proofs.Run.Sending

/-!
# How runs fail

A refusal ends a run at once, and its error is that of the run. If nothing is refused,
then a run that is not cancelled fails on its last reply alone: its source was described
without some column of the request, or the reply is malformed. A malformed reply does not
have the columns that its statement asks for, and the names of these are read off the
text of the statement.

Main statement: `errors_are_transparent`.
-/

namespace ChartQuery

open Program Event SelectList Text

section Replies

variable {frame : Frame}

def Frame.HasTexts (frame : Frame) (name : String) : Prop :=
  ∃ column cells, frame.column? name = some column ∧ column.cells = .texts cells

def Frame.HasVerdict (frame : Frame) : Prop :=
  ∃ column verdict rest, frame.column? Names.verdict = some column ∧
    column.cells = .truths (some verdict :: rest)

theorem Schema.textColumn_error {name : String} {e : Error}
    (failed : textColumn frame name = .error e) :
    ¬frame.HasTexts name ∧ e.kind = .internal := by
  unfold textColumn at failed
  constructor
  · rintro ⟨column, cells, found, texts⟩
    simp [found, texts] at failed
  · split at failed
    · cases failed
      rfl
    split at failed
    · cases failed
    · cases failed
      rfl

theorem Schema.ofDescription_error {e : Error} (failed : ofDescription frame = .error e) :
    (¬frame.HasTexts "column_name" ∨ ¬frame.HasTexts "column_type") ∧ e.kind = .internal := by
  unfold ofDescription at failed
  cases names : textColumn frame "column_name" with
  | error e' =>
    rw [names] at failed
    cases failed
    exact (textColumn_error names).imp_left .inl
  | ok names' =>
    rw [names] at failed
    cases types : textColumn frame "column_type" with
    | error e' =>
      rw [types] at failed
      cases failed
      exact (textColumn_error types).imp_left .inr
    | ok types' =>
      rw [types] at failed
      cases failed

theorem checkSource_error {reference : String} {encoding : Encoding} {e : Error}
    (failed : checkSource reference encoding frame = .error e) :
    Schema.ofDescription frame = .error e ∨ ∃ schema, Schema.ofDescription frame = .ok schema ∧
      schema.missing (Encoding.columns encoding) ≠ [] ∧
      e = .schema reference (schema.missing (Encoding.columns encoding)) := by
  unfold checkSource at failed
  cases read : Schema.ofDescription frame with
  | error e' =>
    rw [read] at failed
    exact .inl failed
  | ok schema =>
    rw [read] at failed
    refine .inr ⟨schema, rfl, ?_⟩
    change (if _ then _ else _) = _ at failed
    split at failed
    · cases failed
    · rename_i missing
      cases failed
      exact ⟨by simpa using missing, rfl⟩

theorem Probe.verdict_error {e : Error} (failed : verdict frame = .error e) :
    ¬frame.HasVerdict ∧ e.kind = .internal := by
  unfold verdict at failed
  constructor
  · rintro ⟨column, answer, rest, found, truths⟩
    simp [found, truths] at failed
  · split at failed
    · cases failed
      rfl
    split at failed
    · cases failed
    · cases failed
      rfl
    · cases failed
      rfl

end Replies

section Finals

variable (mark : Mark) (schema : Schema)

theorem columns?_finalText (aggregate : Option Aggregate) {table : String} (firm : Firm table) :
    (columns? (Request.finalText mark schema table aggregate)).getD schema.names =
      (Request.resultSchema mark schema aggregate).names := by
  cases aggregate with
  | none => simp [Request.finalText, columns?_everything, Request.resultSchema]
  | some f =>
    simp [Request.finalText, Aggregation.columns?_body mark schema f firm, Request.resultSchema,
      Aggregation.names_resultSchema]

/-- The final query is not taken for a probe. -/
theorem columns?_finalText_ne (aggregate : Option Aggregate) {table : String}
    (firm : Firm table) :
    columns? (Request.finalText mark schema table aggregate) ≠ some [Names.verdict] := by
  cases aggregate with
  | none => simp [Request.finalText, columns?_everything]
  | some f =>
    have field : mark.valueAxis.field ≠ Names.verdict := by cases mark <;> decide
    rw [Request.finalText, Aggregation.columns?_body mark schema f firm]
    intro same
    have last := congrArg (Option.map List.getLast?) same
    simp [field] at last

end Finals

namespace Request

section Transparency

variable {names : TypeNames} {request : Request} {mark : Mark}

theorem openSource_passesOn : request.openSource.PassesOn := by
  rw [openSource_eq]
  cases request.effectivePreQuery with
  | none => trivial
  | some query =>
    exact (passesOn_temp _).bind fun _ => passesOn_checkpoint.bind fun _ =>
      (passesOn_consult _ _).bind fun _ => trivial

theorem reshaping_passesOn (source : String) : (request.reshaping mark source).PassesOn :=
  passesOn_checkpoint.bind fun _ => (passesOn_consult _ _).bind fun _ =>
    (passesOn_temp _).bind fun _ => passesOn_checkpoint.bind fun _ =>
      (passesOn_consult _ _).bind fun _ => passesOn_checkpoint.bind fun _ =>
        (passesOn_consult _ _).bind fun _ => trivial

theorem isDistinct_passesOn (schema : Schema) (table : String) :
    (isDistinct mark schema table).PassesOn := by
  rw [isDistinct_eq]
  split
  · trivial
  · exact passesOn_consult _ _

theorem finishing_passesOn (preQuery : Option String) (table : Reshaped) :
    (request.finishing names mark preQuery table).PassesOn :=
  passesOn_checkpoint.bind fun _ => (isDistinct_passesOn _ _).bind fun _ =>
    passesOn_checkpoint.bind fun _ => (passesOn_consult _ _).bind fun _ => trivial

theorem steps_passesOn : (request.steps names mark).PassesOn := by
  rw [steps_eq]
  exact openSource_passesOn.bind fun _ => (reshaping_passesOn _).bind fun _ =>
    finishing_passesOn _ _

end Transparency

variable (request : Request)

/-- The source was described without some columns of the request, which the error lists. -/
def LacksColumns (log : List Exchange) (e : Error) : Prop :=
  ∃ front opened frame schema, request.Opens opened front ∧
    log = front ++ [⟨.describe (request.sourceReference opened), .ok frame⟩] ∧
    Schema.ofDescription frame = .ok schema ∧
    schema.missing (Encoding.columns request.encoding) ≠ [] ∧
    e = .schema (request.sourceReference opened)
      (schema.missing (Encoding.columns request.encoding))

/-- The reply to a statement, after a log, does not have what the statement asks for. -/
inductive Malformed : List Exchange → Statement → Frame → Prop
  | description {log : List Exchange} {reference : String} {frame : Frame}
      (place : log.length = request.opening ∨ log.length = request.opening + 2)
      (untold : ¬frame.HasTexts "column_name" ∨ ¬frame.HasTexts "column_type") :
      Malformed log (.describe reference) frame
  | verdict {log : List Exchange} {query : String} {frame : Frame}
      (place : log.length = request.opening + 3) (probe : columns? query = some [Names.verdict])
      (unanswered : ¬frame.HasVerdict) : Malformed log (.select query) frame
  /-- A field that the query lists, or that the reshaped table has if it lists none. -/
  | result {log : List Exchange} {query reference : String} {description frame : Frame}
      {schema : Schema} {role : Role} (other : columns? query ≠ some [Names.verdict])
      (described : log[request.opening + 2]? = some ⟨.describe reference, .ok description⟩)
      (read : Schema.ofDescription description = .ok schema)
      (listed : role.field ∈ (columns? query).getD schema.names)
      (absent : role.field ∉ frame.map Column.name) : Malformed log (.select query) frame

variable {request} {names : TypeNames} {mark : Mark} {log : List Exchange} {e : Error}

/-- A final reply cannot be read for a field that is not there. -/
theorem readData_error {schema : Schema} {distinct : Bool} {frame : Frame}
    (failed : request.readData names mark schema distinct frame = .error e) :
    e.kind = .internal ∧ ∃ role : Role,
      role.field ∈ (resultSchema mark schema (request.aggregateFor mark distinct)).names ∧
        role.field ∉ frame.map Column.name := by
  unfold readData at failed
  obtain none | ⟨front, entry, rest, split, lacks, fine⟩ := ChartData.lacks_first frame
    (resultSchema mark schema (request.aggregateFor mark distinct))
  · rw [ChartData.ofFrame_ok _ none] at failed
    cases failed
  · simp only [split] at failed ⊢
    rw [ChartData.ofFrame_error _ fine lacks] at failed
    cases failed
    obtain ⟨⟨role, named⟩, absent⟩ := lacks
    refine ⟨rfl, role, ?_, named ▸ absent⟩
    rw [named]
    simp [Schema.names]

/-- A run that was refused nothing fails for columns of its source that are not there, or
on a reply that is malformed. -/
theorem Fails.cause (fails : request.Fails mark names log e)
    (accepted : ∀ exchange ∈ log, ∃ frame, exchange.reply = .ok frame) :
    request.LacksColumns log e ∨ e.kind = .internal ∧ ∃ front statement frame,
      log = front ++ [⟨statement, .ok frame⟩] ∧ request.Malformed front statement frame := by
  cases fails with
  | refused =>
    obtain ⟨frame, same⟩ := accepted _ (List.mem_append_right _ (List.mem_singleton_self _))
    cases same
  | @source front opened frame e opens failed =>
    obtain failed | ⟨schema, read, missing, rfl⟩ := checkSource_error failed
    · obtain ⟨untold, internal⟩ := Schema.ofDescription_error failed
      exact .inr ⟨internal, _, _, frame, rfl, .description (.inl opens.length) untold⟩
    · exact .inl ⟨front, opened, frame, schema, opens, rfl, read, missing, rfl⟩
  | @reshaped front source table made frame e known failed =>
    obtain ⟨untold, internal⟩ := Schema.ofDescription_error failed
    refine .inr ⟨internal, _, _, frame, rfl, .description (.inr ?_) untold⟩
    obtain ⟨opening, described, schema, rfl, length, -⟩ := known
    simp [length]
  | @probe front table schema query frame e known asked failed =>
    obtain ⟨unanswered, internal⟩ := Probe.verdict_error failed
    exact .inr ⟨internal, _, _, frame, rfl,
      .verdict known.length (Probe.columns?_sql asked) unanswered⟩
  | @final front table schema distinct frame e known failed =>
    obtain ⟨internal, role, listed, absent⟩ := readData_error failed
    obtain ⟨before, verdict, rfl, table', -⟩ := known.split
    obtain ⟨_, _, description, entries, read⟩ := table'.entries
    have firm := firm_quoteName table.name
    rw [← columns?_finalText mark schema _ firm] at listed
    exact .inr ⟨internal, _, _, frame, rfl,
      .result (columns?_finalText_ne mark schema _ firm) (entries verdict).2 read listed absent⟩

end Request

/-- Take a run of a valid request. If a statement is refused, then it is the last one but
the drops of the tables that were taken, and its error is that of the run. If nothing is
refused and the run is not cancelled, then the only errors are those for columns that the
description of the source does not have, and those for a reply that is malformed. -/
theorem errors_are_transparent {names : TypeNames} {request : Request} {mark : Mark}
    {session : String} {events : List Event} {result : Except Error Prepared}
    (valid : request.validate = .ok mark)
    (run : Steps session (request.prepare names) events (done result)) :
    let log := exchanges (withoutDrops events)
    (∀ before statement e after, log = before ++ ⟨statement, .error e⟩ :: after →
      result = .error e ∧ after = [] ∧ sent events =
        log.map Exchange.statement ++
          (taken events).reverse.map fun table => .drop table.name) ∧
    (SeenAs .never 0 events → (∀ exchange ∈ log, ∃ frame, exchange.reply = .ok frame) →
      ∀ e, result = .error e →
        request.LacksColumns log e ∨ e.kind = .internal ∧ ∃ front statement frame,
          log = front ++ [⟨statement, .ok frame⟩] ∧ request.Malformed front statement frame) := by
  intro log
  obtain ⟨work, drops, split, cleanup⟩ := Request.work_of_prepare valid run
  constructor
  · intro before statement e after refused
    obtain ⟨first, last, same, -, later⟩ := exchanges_eq_append_cons refused
    rw [same] at work
    obtain ⟨rfl, failed⟩ := Request.steps_passesOn.steps_refused work
    refine ⟨failed, later.symm, ?_⟩
    rw [← cleanup, ← sent, ← sent_append, ← split]
  · rintro never accepted e rfl
    obtain cancelled | fails := Request.ends_of_log valid run
    · exact absurd (List.mem_of_mem_filter cancelled) never.goes
    · exact fails.cause accepted

/-- The engine of `sales` refuses nothing, but gives no verdict on the rows. -/
def muteSales : Setting := { engine := .ofReplies (salesReplies.take 4), session := "s" }

/-- The run of `sales` that is refused its source ends there. The one without a verdict ends
with a malformed reply. -/
theorem refusedSales_is_transparent :
    sales.validate = .ok .barY ∧
      Steps "t" (sales.prepare .duckdb) refusedSales (done (.error (.engine "no such table"))) ∧
      sent refusedSales =
        [Request.preQueryStatement "SELECT * FROM raw;" ⟨.preQuery, "t", 0⟩,
          .describe (quoteName (TempTable.name ⟨.preQuery, "t", 0⟩)),
          .drop (TempTable.name ⟨.preQuery, "t", 0⟩)] ∧
      ∃ events, Steps "s" (sales.prepare .duckdb) events
          (done (.error (.internal (.noVerdict Names.verdict)))) ∧
        SeenAs .never 0 events ∧
        ∃ front statement frame,
          exchanges (withoutDrops events) = front ++ [⟨statement, .ok frame⟩] ∧
          sales.Malformed front statement frame := by
  have valid : sales.validate = .ok .barY := rfl
  obtain ⟨-, -, sends⟩ := (errors_are_transparent valid steps_refusedSales).1 [_] _ _ [] rfl
  obtain ⟨events, run, log, never⟩ := steps_run muteSales (sales.prepare .duckdb) {}
  have ended : ((sales.prepare .duckdb).run muteSales {}).result =
      .error (.internal (.noVerdict Names.verdict)) := rfl
  have accepted : ∀ exchange ∈ exchanges (withoutDrops events),
      ∃ frame, exchange.reply = .ok frame := by
    intro exchange mem
    obtain ⟨place, here⟩ := List.getElem?_of_mem mem
    rw [exchanges_withoutDrops, log] at here
    rw [reply_of_work _ _ _ here]
    exact match (0 + place : Nat) with
      | 0 | 1 | 2 | 3 | _ + 4 => ⟨_, rfl⟩
  rw [ended] at run
  obtain ⟨_, _, _, _, _, _, _, _, schema⟩ | ⟨-, malformed⟩ :=
    (errors_are_transparent valid run).2 never accepted _ rfl
  · cases schema
  · exact ⟨valid, steps_refusedSales, sends, events, run, never, malformed⟩

end ChartQuery
