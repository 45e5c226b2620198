import ChartQuery.Proofs.Run.Cleanup
import ChartQuery.Proofs.Run.Script

/-!
# Runs keep to their script

A run takes the tables and sends the statements of the script of its replies, in
order. It leaves the script only by ending early, and a run that returns data has
come to the end of it.

Main statement: `prepare_keeps_to_script`.
-/

namespace ChartQuery

open Program Event

namespace Request

variable (request : Request) (mark : Mark)

/-- Tables and statements of a run so far, next to those of a complete run. -/
def OnScript (opened reshaped : TempTable) (events : List Event) : Prop :=
  taken events <+: request.tables opened reshaped ∧
    sent events <+:
      (request.script mark opened reshaped ((exchanges events).map Exchange.reply)).statements

/-- What has happened when the source is open. -/
structure IsOpen (opened : TempTable) (events : List Event) (source : String)
    (preQuery : Option String) : Prop where
  purpose : opened.purpose = .preQuery
  source_eq : request.sourceReference opened = source
  taken_eq : taken events = (request.effectivePreQuery.map fun _ => opened).toList
  sent_eq : sent events =
    (request.effectivePreQuery.map fun query => preQueryStatement query opened).toList
  preQuery_eq : preQuery =
    (request.effectivePreQuery.map fun query => preQueryStatement query opened).map Statement.sql

variable {request mark} {names : TypeNames}

theorem IsOpen.length {opened : TempTable} {events : List Event} {source : String}
    {preQuery : Option String} (h : request.IsOpen opened events source preQuery) :
    (exchanges events).length = request.opening := by
  have := congrArg List.length h.sent_eq
  cases pre : request.effectivePreQuery <;> simp_all [sent, opening]

def EndsEarly (request : Request) (mark : Mark) (events : List Event) : Prop :=
  ∃ opened reshaped, opened.purpose = .preQuery ∧ reshaped.purpose = .reshape ∧
    request.OnScript mark opened reshaped events

theorem openSource_script (mark : Mark) :
    Obeys .record (fun events result =>
      match result with
      | .ok (source, preQuery) => ∃ opened, request.IsOpen opened events source preQuery
      | .error _ => request.EndsEarly mark events)
      request.openSource [] := by
  rw [openSource_eq]
  cases pre : request.effectivePreQuery with
  | none =>
    refine ⟨⟨.preQuery, "", 0⟩, rfl, ?_, ?_, ?_, ?_⟩ <;>
      simp [sourceReference, pre]
  | some query =>
    rw [← List.append_nil ([] : List Event)]
    apply record_temp
    intro opened purpose
    have early (events : List Event) (took : taken events = [opened])
        (statements : sent events <+: [preQueryStatement query opened]) :
        request.EndsEarly mark events := by
      refine ⟨opened, ⟨.reshape, "", 0⟩, purpose, rfl, ?_, ?_⟩
      · simp [took, tables, pre]
      · refine statements.trans ?_
        simp [script, Script.statements, pre]
    apply record_checkpoint
    · exact early _ rfl (by simp)
    apply record_consult
    · intro reply e _
      exact early _ rfl (List.prefix_refl _)
    · intro reply _ _
      refine ⟨opened, purpose, ?_, ?_, ?_, ?_⟩ <;>
        simp [sourceReference, pre]

/-- What has happened when the source is reshaped. -/
structure IsReshaped (request : Request) (mark : Mark) (opened reshaped : TempTable)
    (events : List Event) (table : Reshaped) : Prop where
  purposes : opened.purpose = .preQuery ∧ reshaped.purpose = .reshape
  reference_eq : table.reference = quoteName reshaped.name
  taken_eq : taken events = request.tables opened reshaped
  sent_eq : sent events =
    (request.effectivePreQuery.map fun query => preQueryStatement query opened).toList ++
      [.describe (request.sourceReference opened),
        request.reshapeStatement mark (request.sourceReference opened) reshaped,
        .describe (quoteName reshaped.name)]
  described_eq (more : List Reply) :
    request.described ((exchanges events).map Exchange.reply ++ more) = table.schema
  statement_eq :
    table.statement = (request.reshapeStatement mark (request.sourceReference opened) reshaped).sql

theorem described_eq (front more : List Reply) (source made : Reply) {reply : Reply}
    {schema : Schema} (length : front.length = request.opening)
    (read : reply.bind Schema.ofDescription = .ok schema) :
    request.described (front ++ [source, made, reply] ++ more) = schema := by
  rw [described, ← length]
  simp [heard, read]

theorem reshaping_script {opened : TempTable} {events : List Event} {source : String}
    {preQuery : Option String} (h : request.IsOpen opened events source preQuery) :
    Obeys .record (fun events result =>
      match result with
      | .ok table => ∃ reshaped, request.IsReshaped mark opened reshaped events table
      | .error _ => request.EndsEarly mark events)
      (request.reshaping mark source) events := by
  have early (reshaped : TempTable) (purpose : reshaped.purpose = .reshape) (more : List Event)
      (took : taken more <+: [reshaped])
      (statements : sent more <+: [.describe source, request.reshapeStatement mark source reshaped,
        .describe (quoteName reshaped.name)]) :
      request.EndsEarly mark (events ++ more) := by
    refine ⟨opened, reshaped, h.purpose, purpose, ?_, ?_⟩
    · rw [taken_append, h.taken_eq, tables]
      exact (List.prefix_append_right_inj _).2 took
    · rw [sent_append, h.sent_eq, script, Script.statements]
      simp only [h.source_eq, List.append_assoc]
      refine (List.prefix_append_right_inj _).2 (statements.trans ?_)
      simp
  have unmade (more : List Event) (took : taken more = [])
      (statements : sent more <+: [.describe source]) :
      request.EndsEarly mark (events ++ more) := by
    refine early ⟨.reshape, "", 0⟩ rfl more (by simp [took]) (statements.trans ?_)
    simp
  unfold reshaping
  rw [← List.append_nil events]
  apply record_checkpoint
  · exact unmade _ rfl (by simp)
  apply record_consult
  · intro described e _
    exact unmade _ rfl (by simp)
  intro described _ _
  apply record_temp
  intro reshaped purpose
  replace early := early reshaped purpose
  apply record_checkpoint
  · exact early _ (by simp) (by simp)
  apply record_consult
  · intro made e _
    exact early _ (by simp) (by simp)
  intro made _ _
  apply record_checkpoint
  · exact early _ (by simp) (by simp)
  apply record_consult
  · intro reply e _
    exact early _ (by simp) (by simp)
  intro reply schema read
  refine ⟨reshaped, ⟨h.purpose, purpose⟩, rfl, ?_, ?_, ?_, ?_⟩
  · simp [h.taken_eq, tables]
  · simp [h.sent_eq, h.source_eq]
  · intro more
    have := described_eq ((exchanges events).map Exchange.reply) more described made
      (by rw [List.length_map, h.length]) read
    simpa using this
  · simp [h.source_eq]

section Finish

variable {opened reshaped : TempTable} {events : List Event} {table : Reshaped}

def probe (mark : Mark) (table : Reshaped) : Option Statement :=
  (Probe.sql? (Probe.columns mark table.schema) table.reference).map .select

theorem IsReshaped.statements_eq (h : request.IsReshaped mark opened reshaped events table)
    (more : List Reply) :
    (request.script mark opened reshaped
      ((exchanges events).map Exchange.reply ++ more)).statements =
        sent events ++ (probe mark table).toList ++
          [.select (finalText mark table.schema table.reference
            (request.decided mark ((exchanges events).map Exchange.reply ++ more)))] := by
  rw [h.sent_eq, probe, h.reference_eq]
  simp only [Script.statements, script, h.described_eq, List.append_assoc, List.cons_append,
    List.nil_append]

theorem IsReshaped.early (h : request.IsReshaped mark opened reshaped events table)
    (more : List Event) (took : taken more = [])
    (statements : sent more <+: (probe mark table).toList) :
    request.EndsEarly mark (events ++ more) := by
  refine ⟨opened, reshaped, h.purposes.1, h.purposes.2, ?_, ?_⟩
  · simp [took, h.taken_eq]
  · rw [exchanges_append, List.map_append, h.statements_eq, sent_append, List.append_assoc]
    exact (List.prefix_append_right_inj _).2 (statements.trans (List.prefix_append ..))

def settled (request : Request) (mark : Mark) (opened reshaped : TempTable) (table : Reshaped)
    (distinct : Bool) : Script where
  preQuery := request.effectivePreQuery.map fun query => preQueryStatement query opened
  source := .describe (request.sourceReference opened)
  reshape := request.reshapeStatement mark (request.sourceReference opened) reshaped
  reshaped := .describe (quoteName reshaped.name)
  probe := probe mark table
  final := .select
    (finalText mark table.schema table.reference (request.aggregateFor mark distinct))

/-- What has happened when it is known whether the rows are distinct. -/
structure IsDecided (request : Request) (mark : Mark) (opened reshaped : TempTable)
    (events : List Event) (table : Reshaped) (distinct : Bool) : Prop where
  taken_eq : taken events = request.tables opened reshaped
  script_eq (more : List Reply) :
    request.script mark opened reshaped ((exchanges events).map Exchange.reply ++ more) =
      request.settled mark opened reshaped table distinct
  statements_eq : (request.settled mark opened reshaped table distinct).statements =
    sent events ++ [(request.settled mark opened reshaped table distinct).final]

/-- A description and an answer settle the script. -/
theorem IsReshaped.settles (h : request.IsReshaped mark opened reshaped events table)
    {more : List Event} {distinct : Bool} (took : taken more = [])
    (asked : sent more = (probe mark table).toList)
    (answered : ∀ later, request.foundDistinct mark
      ((exchanges (events ++ more)).map Exchange.reply ++ later) = distinct) :
    request.IsDecided mark opened reshaped (events ++ more) table distinct where
  taken_eq := by rw [taken_append, took, h.taken_eq, List.append_nil]
  script_eq later := by
    have described := h.described_eq ((exchanges more).map Exchange.reply ++ later)
    rw [← List.append_assoc, ← List.map_append, ← exchanges_append] at described
    rw [script, settled, described, decided, answered, probe, h.reference_eq, aggregateFor]
  statements_eq := by
    rw [sent_append, asked, h.sent_eq]
    simp [Script.statements, settled]

theorem isDistinct_script (h : request.IsReshaped mark opened reshaped events table) :
    Obeys .record (fun events result =>
      match result with
      | .ok distinct => request.IsDecided mark opened reshaped events table distinct
      | .error _ => request.EndsEarly mark events)
      (isDistinct mark table.schema table.reference) (events ++ [.look false]) := by
  have length : (exchanges events).length = request.opening + 3 := by
    have := congrArg List.length h.sent_eq
    cases pre : request.effectivePreQuery <;> simp_all [sent, opening]
  have columns (more : List Reply) : request.foundDistinct mark
      ((exchanges events).map Exchange.reply ++ more) =
        if (Probe.columns mark table.schema).isEmpty then false
        else heard Probe.verdict false more[0]? := by
    rw [foundDistinct, h.described_eq, List.getElem?_append_right (by simp [length])]
    simp [length]
  rw [isDistinct_eq]
  cases text : Probe.sql? (Probe.columns mark table.schema) table.reference with
  | none =>
    refine h.settles rfl (by simp [probe, text]) fun later => ?_
    have empty : (Probe.columns mark table.schema).isEmpty := by
      unfold Probe.sql? at text
      split at text <;> simp_all
    have := columns later
    rw [if_pos empty] at this
    simpa using this
  | some query =>
    have asked (reply : Reply) :
        sent [.look false, .send (.select query) reply] = (probe mark table).toList := by
      simp [probe, text]
    have some : (Probe.columns mark table.schema).isEmpty = false := by
      unfold Probe.sql? at text
      split at text <;> simp_all
    intro reply
    rw [Discipline.record_after, List.append_assoc, obeys_done]
    refine ⟨trivial, ?_⟩
    cases answer : reply.bind Probe.verdict with
    | error e => exact h.early _ rfl (by simp [asked])
    | ok distinct =>
      refine h.settles rfl (asked reply) fun later => ?_
      have := columns (reply :: later)
      simpa [some, heard, answer] using this

/-- How a run of a valid request ends, before its cleanup: anywhere on the
script, and at its end if it returns data. -/
def KeepsToScript (request : Request) (mark : Mark) (events : List Event)
    (result : Except Error Prepared) : Prop :=
  ∃ opened reshaped, opened.purpose = .preQuery ∧ reshaped.purpose = .reshape ∧
    request.OnScript mark opened reshaped events ∧
    ∀ prepared, result = .ok prepared →
      let script := request.script mark opened reshaped ((exchanges events).map Exchange.reply)
      sent events = script.statements ∧
        prepared.queries =
          { preQuery := script.preQuery.map Statement.sql
            reshape := script.reshape.sql
            final := script.final.sql }

theorem EndsEarly.keepsToScript (h : request.EndsEarly mark events) (e : Error) :
    request.KeepsToScript mark events (.error e) := by
  obtain ⟨opened, reshaped, purpose, purpose', onScript⟩ := h
  exact ⟨opened, reshaped, purpose, purpose', onScript, by simp⟩

theorem finishing_script {preQuery : Option String}
    (h : request.IsReshaped mark opened reshaped events table)
    (text : preQuery =
      (request.effectivePreQuery.map fun query => preQueryStatement query opened).map
        Statement.sql) :
    Obeys .record (request.KeepsToScript mark)
      (request.finishing names mark preQuery table) events := by
  unfold finishing
  rw [← List.append_nil events]
  apply record_checkpoint
  · exact (h.early [.look true] rfl (by simp)).keepsToScript .cancelled
  apply (isDistinct_script h).bind
  · intro events e early
    exact EndsEarly.keepsToScript early e
  intro events distinct ends
  have onScript (more : List Event) (took : taken more = [])
      (statements : sent more <+: [(request.settled mark opened reshaped table distinct).final]) :
      request.OnScript mark opened reshaped (events ++ more) := by
    constructor
    · simp [took, ends.taken_eq]
    · rw [exchanges_append, List.map_append, ends.script_eq, ends.statements_eq, sent_append]
      exact (List.prefix_append_right_inj _).2 statements
  have early (more : List Event) (took : taken more = [])
      (statements : sent more <+: [(request.settled mark opened reshaped table distinct).final])
      (e : Error) : request.KeepsToScript mark (events ++ more) (.error e) :=
    EndsEarly.keepsToScript
      ⟨opened, reshaped, h.purposes.1, h.purposes.2, onScript more took statements⟩ e
  rw [← List.append_nil events]
  apply record_checkpoint
  · exact early _ rfl (by simp) .cancelled
  apply record_consult
  · intro reply e _
    exact early _ rfl (by simp [settled]) e
  · intro reply data _
    rw [obeys_done]
    refine ⟨opened, reshaped, h.purposes.1, h.purposes.2, ?_, ?_⟩
    · exact onScript _ rfl (by simp [settled])
    · intro prepared same
      rw [exchanges_append, List.map_append, ends.script_eq]
      cases same
      constructor
      · rw [ends.statements_eq, sent_append]
        simp [settled]
      · simp [Request.prepared, settled, text, h.statement_eq]

end Finish

theorem steps_script :
    Obeys .record (request.KeepsToScript mark) (request.steps names mark) [] := by
  rw [steps_eq]
  apply (openSource_script mark).bind
  · intro events e early
    exact EndsEarly.keepsToScript early e
  intro events opened ⟨table, isOpen⟩
  apply (reshaping_script isOpen).bind
  · intro events e early
    exact EndsEarly.keepsToScript early e
  intro events reshaped ⟨_, isReshaped⟩
  exact finishing_script isReshaped isOpen.preQuery_eq

end Request

variable {names : TypeNames} {request : Request} {mark : Mark} {session : String}
  {events : List Event} {result : Except Error Prepared}

/-- However the engine replies, and whenever a run of a valid request is
cancelled, it takes and sends, apart from its drops, the first so many tables
and statements of the script of its replies, and all of them if it returns data.
The script has the probe exactly if a role that identifies a mark has a column in
the reshaped table, and its final statement is the aggregate query exactly if an
aggregate is chosen for the verdict. -/
theorem prepare_keeps_to_script (valid : request.validate = .ok mark)
    (run : Steps session (request.prepare names) events (done result)) :
    ∃ opened reshaped, opened.purpose = .preQuery ∧ reshaped.purpose = .reshape ∧
      let log := exchanges (withoutDrops events)
      let replies := log.map Exchange.reply
      let script := request.script mark opened reshaped replies
      let table := quoteName reshaped.name
      let aggregate := request.decided mark replies
      let schema := request.described replies
      taken events <+: request.tables opened reshaped ∧
      log.map Exchange.statement <+: script.statements ∧
      (script.probe.isSome ↔ ∃ role ∈ mark.identifyingRoles, schema.has role.field) ∧
      (∀ f, aggregate = some f →
        (Aggregation.query mark schema f table).sql = .ok script.final.sql) ∧
      (aggregate = none → script.final.sql = "SELECT * FROM " ++ table ∧
        ∀ f, (Aggregation.query mark schema f table).sql ≠ .ok script.final.sql) ∧
      ∀ prepared, result = .ok prepared →
        log.map Exchange.statement = script.statements ∧
          prepared.queries =
            { preQuery := script.preQuery.map Statement.sql
              reshape := script.reshape.sql
              final := script.final.sql } := by
  unfold Request.prepare at run
  rw [valid] at run
  obtain ⟨first, last, rfl, steps, drops, -⟩ := run.withCleanup_done
  obtain ⟨keeps, -⟩ := Holdings.working_sent Holdings.steps_working steps
  obtain ⟨opened, reshaped, purpose, purpose', ⟨took, statements⟩, complete⟩ :
      request.KeepsToScript mark ([] ++ first) result := by
    rw [← Discipline.afterAll_record]
    exact Request.steps_script.steps steps
  have all : taken (first ++ last) = taken first := by simp [taken_of_drops drops]
  rw [withoutDrops_append keeps drops, all]
  exact ⟨opened, reshaped, purpose, purpose', took, statements,
    Request.script_probe_isSome .., (Request.script_final ..).1, (Request.script_final ..).2,
    complete⟩

def Frame.ofTexts (columns : List (String × List String)) : Frame :=
  columns.map fun (name, cells) => ⟨name, .texts (cells.map some)⟩

/-- Replies with which the run of `sales` comes to its end, with rows that are
distinct. -/
def salesReplies : List Reply :=
  [.ok .empty,
    .ok (.ofTexts [("column_name", ["region", "amount"]), ("column_type", ["VARCHAR", "DOUBLE"])]),
    .ok .empty,
    .ok (.ofTexts [("column_name", ["x", "y"]), ("column_type", ["VARCHAR", "DOUBLE"])]),
    .ok [⟨Names.verdict, .truths [some true]⟩],
    .ok [⟨"x", .texts [some "North"]⟩, ⟨"y", .doubles [none]⟩]]

theorem sales_comes_to_its_end :
    ∃ prepared, ((sales.prepare .duckdb).run
      { engine := .ofReplies salesReplies, session := "s" } {}).result = .ok prepared :=
  ⟨_, rfl⟩

theorem sales_keeps_to_script :
    sales.validate = .ok .barY ∧ ∃ events prepared,
      Steps "s" (sales.prepare .duckdb) events (done (.ok prepared)) ∧
      ∃ opened reshaped,
        let log := exchanges (withoutDrops events)
        let script := sales.script .barY opened reshaped (log.map Exchange.reply)
        log.map Exchange.statement = script.statements ∧
          prepared.queries.final = script.final.sql := by
  obtain ⟨events, steps, -, -⟩ := steps_run { engine := .ofReplies salesReplies, session := "s" }
    (sales.prepare .duckdb) {}
  obtain ⟨prepared, result⟩ := sales_comes_to_its_end
  rw [result] at steps
  obtain ⟨opened, reshaped, -, -, -, -, -, -, -, complete⟩ := prepare_keeps_to_script rfl steps
  obtain ⟨all, queries⟩ := complete prepared rfl
  refine ⟨rfl, events, prepared, steps, opened, reshaped, all, ?_⟩
  rw [queries]

end ChartQuery
