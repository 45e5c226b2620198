import ChartQuery.Proofs.Run.FaithfulEngine
import ChartQuery.Proofs.Run.Promptness

/-!
# Names of temporary tables do not leak

Two runs of one request differ in their session and in the numbers of their tables. If
they are given the same replies they return the same data with the same description, or
errors of one kind, so that nothing a caller sees tells the names of the tables.

Both runs are compared in lock step. A run that is never cancelled is taken as one that
is cancelled during a statement which it does not come to.

Main statement: `table_names_do_not_leak`.
-/

namespace ChartQuery

open Program Event

theorem Event.SeenAs.during {n answered : Nat} {events : List Event}
    (h : SeenAs .never answered events) (late : answered + (sent events).length ≤ n) :
    SeenAs (.during n) answered events := by
  induction events generalizing answered with
  | nil => trivial
  | cons event events ih =>
    cases event with
    | take table => exact ih h late
    | look cancelled =>
      rw [sent_cons] at late
      have none : ¬n < answered := by omega
      exact ⟨h.1.trans (decide_eq_false none).symm, ih h.2 late⟩
    | send statement reply =>
      have counted : (sent (.send statement reply :: events)).length = (sent events).length + 1 :=
        rfl
      refine ih h ?_
      split <;> omega

/-- Replies that are the same are alike, whatever the tables are. -/
theorem RepliesAlike.of_eq {tables tables' : Tables} {log log' : List Exchange}
    (same : ∀ (place : Nat) (exchange exchange' : Exchange), log[place]? = some exchange →
      log'[place]? = some exchange' → exchange.reply = exchange'.reply) :
    RepliesAlike tables tables' log log' := by
  intro place exchange exchange' here here'
  rw [same place exchange exchange' here here']
  cases exchange'.reply with
  | ok frame => rfl
  | error e => exact Error.Alike.refl e

namespace Request

variable {names : TypeNames} {request : Request} {mark : Mark} {session session' : String}
  {events events' : List Event} {result result' : Except Error Prepared}

/-- Two runs that are not cancelled and are given the same replies end alike. -/
theorem steps_end_alike (run : Steps session (request.steps names mark) events (done result))
    (run' : Steps session' (request.steps names mark) events' (done result'))
    (never : SeenAs .never 0 events) (never' : SeenAs .never 0 events')
    (same : ∀ (place : Nat) (exchange exchange' : Exchange),
      (exchanges events)[place]? = some exchange →
        (exchanges events')[place]? = some exchange' → exchange.reply = exchange'.reply) :
    ∃ tables tables' : Tables,
      ResultsAlike tables tables' (Prepared.Alike tables tables') result result' := by
  obtain ⟨tables, took⟩ := exists_tables run
  obtain ⟨tables', took'⟩ := exists_tables run'
  obtain ⟨keeps, -⟩ := Holdings.working_sent Holdings.steps_working run
  obtain ⟨keeps', -⟩ := Holdings.working_sent Holdings.steps_working run'
  let n := (sent events).length + (sent events').length
  have token (answered : Nat) :
      (Cancellation.during n).isRequested answered = decide (n + 1 ≤ answered) := rfl
  have paired : Stance.Paired tables tables' (Prepared.Alike tables tables') (.during n) .fresh 0
      (request.steps names mark) (request.steps names mark) events events' := by
    constructor
    · exact steps_alike tables tables'
    · exact Stance.steps_prompt
    · exact Stance.steps_prompt
    · exact never
    · exact never'.during (by omega)
    · exact fun event => uses_of_taken took keeps
    · exact fun event => uses_of_taken took' keeps'
    · exact RepliesAlike.of_eq same
  obtain ⟨-, ends, -⟩ :=
    Stance.lockstep token paired (Nat.zero_le _) (fun looks => by cases looks) run run'
  exact ⟨tables, tables', ends (by omega)⟩

end Request

/-- Take two runs of a request in any two sessions, with any numbers for their tables, and
with the same reply to the statements in one place, drops aside. Either both return data,
which are equal and have one description, or both fail with an error of one kind. -/
theorem table_names_do_not_leak {names : TypeNames} {request : Request}
    {session session' : String} {events events' : List Event}
    {result result' : Except Error Prepared}
    (run : Steps session (request.prepare names) events (done result))
    (run' : Steps session' (request.prepare names) events' (done result'))
    (never : SeenAs .never 0 events) (never' : SeenAs .never 0 events')
    (same : ∀ (place : Nat) (exchange exchange' : Exchange),
      (exchanges (withoutDrops events))[place]? = some exchange →
        (exchanges (withoutDrops events'))[place]? = some exchange' →
          exchange.reply = exchange'.reply) :
    (∃ prepared prepared', result = .ok prepared ∧ result' = .ok prepared' ∧
      prepared.data = prepared'.data ∧ prepared.description = prepared'.description) ∨
    ∃ e e', result = .error e ∧ result' = .error e' ∧ e.kind = e'.kind := by
  cases valid : request.validate with
  | error e =>
    unfold Request.prepare at run run'
    rw [valid] at run run'
    obtain ⟨-, ended⟩ := steps_done run
    obtain ⟨-, ended'⟩ := steps_done run'
    cases ended
    cases ended'
    exact .inr ⟨e, e, rfl, rfl, rfl⟩
  | ok mark =>
    obtain ⟨work, -⟩ := Request.work_of_prepare valid run
    obtain ⟨work', -⟩ := Request.work_of_prepare valid run'
    obtain ⟨tables, tables', alike⟩ :=
      Request.steps_end_alike work work' never.withoutDrops never'.withoutDrops same
    cases result with
    | ok prepared =>
      cases result' with
      | ok prepared' =>
        exact .inl ⟨prepared, prepared', rfl, rfl, alike.data, alike.description⟩
      | error e' => exact alike.elim
    | error e =>
      cases result' with
      | ok prepared' => exact alike.elim
      | error e' => exact .inr ⟨e, e', rfl, rfl, alike.kind_eq⟩

def otherSales : Setting := { faithfulSales with session := "t" }

/-- Two runs of `sales`, with other names for their tables, return the same data. -/
theorem otherSales_has_same_data :
    ∃ events events' prepared prepared',
      Steps "s" (sales.prepare .duckdb) events (done (.ok prepared)) ∧
      Steps "t" (sales.prepare .duckdb) events' (done (.ok prepared')) ∧
      SeenAs .never 0 events ∧ SeenAs .never 0 events' ∧
      (∀ (place : Nat) (exchange exchange' : Exchange),
        (exchanges (withoutDrops events))[place]? = some exchange →
          (exchanges (withoutDrops events'))[place]? = some exchange' →
            exchange.reply = exchange'.reply) ∧
      prepared.data = prepared'.data ∧ prepared.description = prepared'.description := by
  obtain ⟨events, run, log, never⟩ := steps_run faithfulSales (sales.prepare .duckdb) {}
  obtain ⟨events', run', log', never'⟩ :=
    steps_run otherSales (sales.prepare .duckdb) { nextTable := 41 }
  have same (place : Nat) (exchange exchange' : Exchange)
      (here : (exchanges (withoutDrops events))[place]? = some exchange)
      (here' : (exchanges (withoutDrops events'))[place]? = some exchange') :
      exchange.reply = exchange'.reply := by
    rw [exchanges_withoutDrops, log] at here
    rw [exchanges_withoutDrops, log'] at here'
    rw [reply_of_work _ _ _ here, reply_of_work _ _ _ here']
    rfl
  obtain ⟨prepared, ended⟩ : ∃ prepared,
      ((sales.prepare .duckdb).run faithfulSales {}).result = .ok prepared := ⟨_, rfl⟩
  obtain ⟨prepared', ended'⟩ : ∃ prepared,
      ((sales.prepare .duckdb).run otherSales { nextTable := 41 }).result = .ok prepared :=
    ⟨_, rfl⟩
  rw [ended] at run
  rw [ended'] at run'
  have alike := table_names_do_not_leak run run' never never' same
  refine ⟨events, events', prepared, prepared', run, run', never, never', same, ?_⟩
  simpa using alike

end ChartQuery
