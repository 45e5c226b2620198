import ChartQuery.Proofs.Plan.Roles
import ChartQuery.Proofs.Run.Cleanup
import ChartQuery.Proofs.Run.Script

/-!
# What a run may send, and how it may end

Each statement of a run follows from the log before it. Where it depends on a reply,
that reply was no refusal and could be read. `Request.MaySend` has one case for each
statement of a run, and `Request.sending` is the discipline of a run that sends nothing
else. What a table is made with and what a query asks for is read back from it by
`Request.MaySend.of_create` and `Request.MaySend.of_select`.

A run that is not cancelled fails only on its last reply, and `Request.Fails` has one case
for each statement whose reply may be of no use.

Main statements: `Request.maySend_of_log` and `Request.ends_of_log`.
-/

namespace ChartQuery

open Program Event Text

namespace Request

variable (request : Request) (mark : Mark)

/-- The log ends with the description of a source that has every column of the request. -/
def KnowsSource (source : String) (log : List Exchange) : Prop :=
  ∃ front frame schema, log = front ++ [⟨.describe source, .ok frame⟩] ∧
    front.length = request.opening ∧ Firm source ∧
    checkSource source request.encoding frame = .ok schema

/-- The log ends with the making of the reshaped table and its description. -/
def KnowsTable (table : TempTable) (schema : Schema) (log : List Exchange) : Prop :=
  ∃ front source made frame, request.KnowsSource source front ∧
    log = front ++ [⟨request.reshapeStatement mark source table, .ok made⟩,
      ⟨.describe (quoteName table.name), .ok frame⟩] ∧
    Schema.ofDescription frame = .ok schema

def probe? (table : TempTable) (schema : Schema) : Option String :=
  Probe.sql? (Probe.columns mark schema) (quoteName table.name)

/-- The log tells whether the rows of the reshaped table are distinct. -/
def KnowsVerdict (table : TempTable) (schema : Schema) (distinct : Bool) (log : List Exchange) :
    Prop :=
  request.KnowsTable mark table schema log ∧ probe? mark table schema = none ∧ distinct = false ∨
    ∃ front query frame, request.KnowsTable mark table schema front ∧
      probe? mark table schema = some query ∧ Probe.verdict frame = .ok distinct ∧
      log = front ++ [⟨.select query, .ok frame⟩]

/-- What a run may send after its log. -/
inductive MaySend : List Exchange → Statement → Prop
  | preQuery {query : String} {table : TempTable} (given : request.effectivePreQuery = some query)
      (purpose : table.purpose = .preQuery) : MaySend [] (preQueryStatement query table)
  | source {log : List Exchange} {source : String} (length : log.length = request.opening) :
      MaySend log (.describe source)
  | reshape {log : List Exchange} {source : String} {table : TempTable}
      (known : request.KnowsSource source log) (purpose : table.purpose = .reshape) :
      MaySend log (request.reshapeStatement mark source table)
  | reshaped {log : List Exchange} {source : String} {table : TempTable} {made : Frame}
      (known : request.KnowsSource source log) :
      MaySend (log ++ [⟨request.reshapeStatement mark source table, .ok made⟩])
        (.describe (quoteName table.name))
  | probe {log : List Exchange} {table : TempTable} {schema : Schema} {query : String}
      (known : request.KnowsTable mark table schema log)
      (asked : probe? mark table schema = some query) : MaySend log (.select query)
  | final {log : List Exchange} {table : TempTable} {schema : Schema} {distinct : Bool}
      (known : request.KnowsVerdict mark table schema distinct log) :
      MaySend log (.select (finalText mark schema (quoteName table.name)
        (request.aggregateFor mark distinct)))

section Inversion

variable {request mark} {log : List Exchange} {table : TempTable} {schema : Schema}

theorem KnowsSource.firm {source : String} (known : request.KnowsSource source log) :
    Firm source := by
  obtain ⟨-, -, -, -, -, firm, -⟩ := known
  exact firm

theorem KnowsTable.length (known : request.KnowsTable mark table schema log) :
    log.length = request.opening + 3 := by
  obtain ⟨_, source, made, frame, ⟨front, described, read, rfl, length, -⟩, rfl, -⟩ := known
  simp [length]

/-- The reshaped table was made and described. It stays so in the log, whatever follows. -/
theorem KnowsTable.entries (known : request.KnowsTable mark table schema log) :
    ∃ source made frame,
      (∀ more, (log ++ more)[request.opening + 1]? =
          some ⟨request.reshapeStatement mark source table, .ok made⟩ ∧
        (log ++ more)[request.opening + 2]? =
          some ⟨.describe (quoteName table.name), .ok frame⟩) ∧
      Schema.ofDescription frame = .ok schema := by
  obtain ⟨_, source, made, frame, ⟨front, described, _, rfl, length, -⟩, rfl, read⟩ := known
  refine ⟨source, made, frame, fun more => ⟨?_, ?_⟩, read⟩
  · simp [← length]
  · simp [← length]

/-- The log before the verdict, and the verdict if there is one. -/
theorem KnowsVerdict.split {distinct : Bool}
    (known : request.KnowsVerdict mark table schema distinct log) :
    ∃ front verdict, log = front ++ verdict ∧ request.KnowsTable mark table schema front ∧
      (verdict = [] ∧ distinct = false ∨
        ∃ query frame, verdict = [⟨.select query, .ok frame⟩] ∧
          Probe.verdict frame = .ok distinct) := by
  obtain ⟨known, -, rfl⟩ | ⟨front, query, frame, known, -, verdict, rfl⟩ := known
  · exact ⟨log, [], by simp, known, .inl ⟨rfl, rfl⟩⟩
  · exact ⟨front, _, rfl, known, .inr ⟨query, frame, rfl, verdict⟩⟩

/-- A table is made first from the pre-query, or after the check of a source by the query
of the plan. -/
theorem MaySend.of_create {name query : String}
    (may : request.MaySend mark log (.create name query)) :
    (log = [] ∧ request.effectivePreQuery.map withoutTerminators = some query) ∨
      ∃ source, request.KnowsSource source log ∧
        ((Reshape.plan mark request.encoding).query source).sql = .ok query := by
  generalize made : Statement.create name query = statement at may
  cases may with
  | preQuery given purpose =>
    obtain ⟨-, rfl⟩ := Statement.create.inj made
    exact .inl ⟨rfl, by rw [given]; rfl⟩
  | reshape known purpose =>
    obtain ⟨-, rfl⟩ := Statement.create.inj made
    exact .inr ⟨_, known, Reshape.sql_query _ known.firm⟩
  | source length => cases made
  | reshaped known => cases made
  | probe known asked => cases made
  | final known => cases made

/-- A query is the probe of a reshaped table, or the final one for a verdict. -/
theorem MaySend.of_select {text : String} (may : request.MaySend mark log (.select text)) :
    ∃ table schema, (request.KnowsTable mark table schema log ∧
        probe? mark table schema = some text) ∨
      ∃ distinct, request.KnowsVerdict mark table schema distinct log ∧
        text = finalText mark schema (quoteName table.name)
          (request.aggregateFor mark distinct) := by
  generalize query : Statement.select text = statement at may
  cases may with
  | preQuery given purpose => cases query
  | source length => cases query
  | reshape known purpose => cases query
  | reshaped known => cases query
  | probe known asked =>
    cases query
    exact ⟨_, _, .inl ⟨known, asked⟩⟩
  | final known =>
    cases query
    exact ⟨_, _, .inr ⟨_, known, rfl⟩⟩

end Inversion

def Opens (opened : TempTable) (log : List Exchange) : Prop :=
  log.map Exchange.statement =
    (request.effectivePreQuery.map fun query => preQueryStatement query opened).toList

/-- The last reply of a log is why a run fails: it is a refusal, or it cannot be read. -/
inductive Fails (names : TypeNames) : List Exchange → Error → Prop
  | refused {log : List Exchange} {statement : Statement} {e : Error} :
      Fails names (log ++ [⟨statement, .error e⟩]) e
  | source {log : List Exchange} {opened : TempTable} {frame : Frame} {e : Error}
      (opens : request.Opens opened log)
      (failed : checkSource (request.sourceReference opened) request.encoding frame = .error e) :
      Fails names (log ++ [⟨.describe (request.sourceReference opened), .ok frame⟩]) e
  | reshaped {log : List Exchange} {source : String} {table : TempTable} {made frame : Frame}
      {e : Error} (known : request.KnowsSource source log)
      (failed : Schema.ofDescription frame = .error e) :
      Fails names (log ++ [⟨request.reshapeStatement mark source table, .ok made⟩] ++
        [⟨.describe (quoteName table.name), .ok frame⟩]) e
  | probe {log : List Exchange} {table : TempTable} {schema : Schema} {query : String}
      {frame : Frame} {e : Error} (known : request.KnowsTable mark table schema log)
      (asked : probe? mark table schema = some query) (failed : Probe.verdict frame = .error e) :
      Fails names (log ++ [⟨.select query, .ok frame⟩]) e
  | final {log : List Exchange} {table : TempTable} {schema : Schema} {distinct : Bool}
      {frame : Frame} {e : Error} (known : request.KnowsVerdict mark table schema distinct log)
      (failed : request.readData names mark schema distinct frame = .error e) :
      Fails names (log ++ [⟨.select (finalText mark schema (quoteName table.name)
        (request.aggregateFor mark distinct)), .ok frame⟩]) e

def Returns (names : TypeNames) (log : List Exchange) (prepared : Prepared) : Prop :=
  ∃ front table schema distinct frame,
    request.KnowsVerdict mark table schema distinct front ∧
    prepared.queries.final =
      finalText mark schema (quoteName table.name) (request.aggregateFor mark distinct) ∧
    log = front ++ [⟨.select prepared.queries.final, .ok frame⟩] ∧
    request.readData names mark schema distinct frame = .ok prepared.data

/-- How a part of a run may end: with a value that suits the log, or in an error, which
the last reply explains unless there was a cancellation. -/
def Ends {α : Type} (names : TypeNames) (good : List Exchange → α → Prop) (events : List Event) :
    Except Error α → Prop
  | .ok a => good (exchanges events) a
  | .error e => .look true ∈ events ∨ request.Fails mark names (exchanges events) e

def sending : Discipline (List Event) where
  allows events event := ∀ exchange, event.exchange? = some exchange →
    request.MaySend mark (exchanges events) exchange.statement
  after events event := events ++ [event]

/-- From a log on, a part of a run sends what it may send, and ends as it may. -/
def Sends {α : Type} (names : TypeNames) (p : Program α) (log : List Exchange)
    (good : List Exchange → α → Prop) : Prop :=
  ∀ events, exchanges events = log →
    Obeys (request.sending mark) (request.Ends mark names good) p events

variable {request mark} {names : TypeNames}

theorem afterAll_sending (start events : List Event) :
    (request.sending mark).afterAll start events = start ++ events :=
  Discipline.afterAll_record start events

theorem Opens.length {opened : TempTable} {log : List Exchange} (h : request.Opens opened log) :
    log.length = request.opening := by
  have := congrArg List.length h
  cases given : request.effectivePreQuery <;> simpa [given, opening] using this

theorem firm_sourceReference (opened : TempTable) : Firm (request.sourceReference opened) := by
  unfold sourceReference
  cases request.effectivePreQuery with
  | none => exact firm_tableReference ..
  | some query => exact firm_quoteName opened.name

section Primitives

variable {α β : Type} {log : List Exchange} {good : List Exchange → α → Prop}

theorem Sends.done {a : α} (h : good log a) : request.Sends mark names (done (.ok a)) log good := by
  rintro events rfl
  exact h

theorem Sends.bind {middle : List Exchange → β → Prop} {p : Program β} {next : β → Program α}
    (h : request.Sends mark names p log middle)
    (goes : ∀ log b, middle log b → request.Sends mark names (next b) log good) :
    request.Sends mark names (p.bind next) log good := by
  intro events here
  apply (h events here).bind
  · exact fun events e ends => ends
  · exact fun events b found => goes _ b found events rfl

theorem Sends.temp {purpose : TempPurpose} {next : TempTable → Program α}
    (goes : ∀ table : TempTable, table.purpose = purpose →
      request.Sends mark names (next table) log good) :
    request.Sends mark names ((temp purpose).bind next) log good := by
  rintro events rfl table same
  refine ⟨fun exchange none => (by cases none), goes table same _ ?_⟩
  simp [sending]

theorem Sends.checkpoint {next : Unit → Program α}
    (goes : request.Sends mark names (next ()) log good) :
    request.Sends mark names (checkpoint.bind next) log good := by
  rintro events rfl
  rw [obeys_checkpoint]
  refine ⟨⟨fun exchange none => (by cases none), .inl ?_⟩, fun exchange none => (by cases none),
    goes _ ?_⟩ <;> simp [sending]

theorem Sends.consult {statement : Statement} {read : Frame → Except Error α}
    (may : request.MaySend mark log statement)
    (fails : ∀ frame e, read frame = .error e →
      request.Fails mark names (log ++ [⟨statement, .ok frame⟩]) e)
    (reads : ∀ frame a, read frame = .ok a → good (log ++ [⟨statement, .ok frame⟩]) a) :
    request.Sends mark names (consult statement read) log good := by
  rintro events rfl reply
  have later : exchanges ((request.sending mark).after events (.send statement reply)) =
      exchanges events ++ [⟨statement, reply⟩] := by
    simp [sending]
  constructor
  · rintro exchange ⟨⟩
    exact may
  cases reply with
  | error e =>
    refine .inr ?_
    rw [later]
    exact .refused
  | ok frame =>
    rw [obeys_done]
    change request.Ends mark names good _ (read frame)
    cases result : read frame with
    | ok a =>
      rw [Ends, later]
      exact reads frame a result
    | error e =>
      refine .inr ?_
      rw [later]
      exact fails frame e result

theorem Sends.consult_bind {statement : Statement} {read : Frame → Except Error β}
    {next : β → Program α} (may : request.MaySend mark log statement)
    (fails : ∀ frame e, read frame = .error e →
      request.Fails mark names (log ++ [⟨statement, .ok frame⟩]) e)
    (goes : ∀ frame b, read frame = .ok b →
      request.Sends mark names (next b) (log ++ [⟨statement, .ok frame⟩]) good) :
    request.Sends mark names ((Program.consult statement read).bind next) log good := by
  have heard : request.Sends mark names (Program.consult statement read) log fun later b =>
      ∃ frame, read frame = .ok b ∧ later = log ++ [⟨statement, .ok frame⟩] :=
    .consult may fails fun frame b result => ⟨frame, result, rfl⟩
  apply heard.bind
  rintro _ b ⟨frame, result, rfl⟩
  exact goes frame b result

end Primitives

theorem openSource_sends : request.Sends mark names request.openSource []
    fun log opened => ∃ table, request.Opens table log ∧
      opened.1 = request.sourceReference table := by
  rw [openSource_eq]
  cases given : request.effectivePreQuery with
  | none =>
    apply Sends.done
    exact ⟨⟨.preQuery, "", 0⟩, by simp [Opens, given], by simp [sourceReference, given]⟩
  | some query =>
    apply Sends.temp
    intro table purpose
    apply Sends.checkpoint
    apply Sends.consult_bind (.preQuery given purpose)
    · exact fun frame e failed => nomatch failed
    intro frame _ _
    apply Sends.done
    exact ⟨table, by simp [Opens, given], by simp [sourceReference, given]⟩

theorem reshaping_sends {log : List Exchange} {opened : TempTable}
    (opens : request.Opens opened log) :
    request.Sends mark names (request.reshaping mark (request.sourceReference opened)) log
      fun log reshaped => ∃ table : TempTable, reshaped.reference = quoteName table.name ∧
        request.KnowsTable mark table reshaped.schema log := by
  unfold reshaping
  apply Sends.checkpoint
  apply Sends.consult_bind (.source opens.length)
  · exact fun frame e failed => .source opens failed
  intro described schema checked
  have known : request.KnowsSource (request.sourceReference opened)
      (log ++ [⟨.describe (request.sourceReference opened), .ok described⟩]) :=
    ⟨log, described, schema, rfl, opens.length, firm_sourceReference opened, checked⟩
  apply Sends.temp
  intro table purpose
  apply Sends.checkpoint
  apply Sends.consult_bind (.reshape known purpose)
  · exact fun frame e failed => nomatch failed
  intro made _ _
  apply Sends.checkpoint
  apply Sends.consult_bind (.reshaped known)
  · exact fun frame e failed => .reshaped known failed
  intro frame schema read
  apply Sends.done
  exact ⟨table, rfl, _, _, made, frame, known, by simp, read⟩

theorem isDistinct_sends {log : List Exchange} {table : TempTable} {schema : Schema}
    (known : request.KnowsTable mark table schema log) :
    request.Sends mark names (isDistinct mark schema (quoteName table.name)) log
      fun log distinct => request.KnowsVerdict mark table schema distinct log := by
  rw [isDistinct_eq]
  cases asked : Probe.sql? (Probe.columns mark schema) (quoteName table.name) with
  | none => exact Sends.done (.inl ⟨known, asked, rfl⟩)
  | some query =>
    apply Sends.consult (.probe known asked)
    · exact fun frame e failed => .probe known asked failed
    · exact fun frame distinct verdict => .inr ⟨log, query, frame, known, asked, verdict, rfl⟩

theorem finishing_sends {log : List Exchange} {reshaped : Reshaped} {table : TempTable}
    (preQuery : Option String) (reference : reshaped.reference = quoteName table.name)
    (known : request.KnowsTable mark table reshaped.schema log) :
    request.Sends mark names (request.finishing names mark preQuery reshaped) log
      (request.Returns mark names) := by
  unfold finishing
  rw [reference]
  apply Sends.checkpoint
  apply (isDistinct_sends known).bind
  intro log distinct verdict
  apply Sends.checkpoint
  apply Sends.consult_bind (.final verdict)
  · exact fun frame e failed => .final verdict failed
  intro frame data read
  apply Sends.done
  exact ⟨log, table, reshaped.schema, distinct, frame, verdict, by rw [← reference]; rfl,
    by rw [← reference]; rfl, read⟩

theorem steps_sends : request.Sends mark names (request.steps names mark) []
    (request.Returns mark names) := by
  rw [steps_eq]
  apply openSource_sends.bind
  rintro log ⟨source, preQuery⟩ ⟨opened, opens, rfl⟩
  apply (reshaping_sends opens).bind
  rintro log reshaped ⟨table, reference, known⟩
  exact finishing_sends preQuery reference known

end Request

/-- Whatever a run sends is allowed by what has happened before. -/
theorem Program.Obeys.allowed {σ α : Type} {d : Discipline σ} {ends : σ → Except Error α → Prop}
    {session : String} {p q : Program α} {first last : List Event} {event : Event} {s : σ}
    (h : Obeys d ends p s) (steps : Steps session p (first ++ event :: last) q) :
    d.allows (d.afterAll s first) event := by
  induction first generalizing p s with
  | nil =>
    cases steps with
    | step step _ => exact (h.step step).1
  | cons before first ih =>
    cases steps with
    | step step rest => exact ih (h.step step).2 rest

theorem exchanges_eq_append_cons {events : List Event} {before after : List Exchange}
    {exchange : Exchange} (log : exchanges events = before ++ exchange :: after) :
    ∃ first last, events = first ++ .send exchange.statement exchange.reply :: last ∧
      exchanges first = before ∧ exchanges last = after := by
  obtain ⟨first, rest, rfl, same, log⟩ := List.filterMap_eq_append_iff.1 log
  obtain ⟨quiet, event, last, rfl, silent, found, later⟩ := List.filterMap_eq_cons_iff.1 log
  have none : exchanges quiet = [] := List.filterMap_eq_nil_iff.2 silent
  refine ⟨first ++ quiet, last, ?_, ?_, later⟩
  · cases event with
    | send statement reply =>
      cases found
      simp
    | _ => cases found
  · rw [exchanges_append, none, List.append_nil]
    exact same

namespace Request

variable {names : TypeNames} {request : Request} {mark : Mark} {session : String}
  {events : List Event} {result : Except Error Prepared}

/-- Every statement of a run but its drops is one that the run may send after the
statements before it. -/
theorem maySend_of_log {before after : List Exchange} {exchange : Exchange}
    (valid : request.validate = .ok mark)
    (run : Steps session (request.prepare names) events (done result))
    (log : exchanges (withoutDrops events) = before ++ exchange :: after) :
    request.MaySend mark before exchange.statement := by
  obtain ⟨work, -⟩ := work_of_prepare valid run
  obtain ⟨first, last, split, rfl, -⟩ := exchanges_eq_append_cons log
  rw [split] at work
  have allowed := (request.steps_sends [] rfl).allowed work
  rw [afterAll_sending, List.nil_append] at allowed
  exact allowed exchange rfl

theorem ends_of_log (valid : request.validate = .ok mark)
    (run : Steps session (request.prepare names) events (done result)) :
    request.Ends mark names (request.Returns mark names) (withoutDrops events) result := by
  obtain ⟨work, -⟩ := work_of_prepare valid run
  have ends := (request.steps_sends [] rfl).steps work
  rwa [afterAll_sending, List.nil_append] at ends

end Request

end ChartQuery
