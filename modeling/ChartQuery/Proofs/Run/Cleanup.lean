import ChartQuery.Proofs.Run.Holdings
import ChartQuery.Proofs.TableNames

/-!
# Cleanup

However a run ends, its last statements drop the tables that it has taken, and
before them it has dropped nothing and created no other tables. What it returns
is settled before the first drop.

Main statement: `prepare_cleans_up`.
-/

namespace ChartQuery

open Program Event

/-- A statement that drops nothing, and that creates at most one of some tables.
This is read off its text. -/
def Statement.Creates (tables : List TempTable) (statement : Statement) : Prop :=
  ¬"DROP TABLE".toList <+: statement.sql.toList ∧
    ("CREATE TABLE".toList <+: statement.sql.toList →
      ∃ table ∈ tables, ∃ query, statement = .create table.name query)

theorem Statement.Creates.mono {tables more : List TempTable} {statement : Statement}
    (h : statement.Creates tables) (sub : tables ⊆ more) : statement.Creates more := by
  refine ⟨h.1, fun create => ?_⟩
  obtain ⟨table, mem, same⟩ := h.2 create
  exact ⟨table, sub mem, same⟩

namespace Holdings

variable {α : Type} {session : String} {ends : Holdings → Except Error α → Prop} {s : Holdings}
  {p q : Program α} {events : List Event}

theorem working_creates {statement : Statement} {reply : Reply}
    (h : working.allows s (.send statement reply)) : statement.Creates s.blank := by
  cases statement with
  | create name query =>
    obtain ⟨table, mem, same⟩ : ∃ table ∈ s.blank, table.name = name := h
    refine ⟨?_, fun _ => ⟨table, mem, query, by rw [same]⟩⟩
    simp only [Statement.sql_create, String.toList_append, List.append_assoc]
    simp
  | describe reference =>
    simp only [Statement.Creates, Statement.sql_describe, String.toList_append]
    simp
  | select query =>
    obtain ⟨rest, same⟩ : "SELECT ".toList <+: query.toList := h
    simp only [Statement.Creates, Statement.sql_select, ← same]
    simp
  | drop name => exact h.elim

theorem working_isDrop {event : Event} (h : working.allows s event) : event.isDrop = false := by
  cases event with
  | send statement reply =>
    cases statement with
    | drop name => exact h.elim
    | _ => rfl
  | _ => rfl

/-- The events of a working program drop nothing, and create tables that are
taken. -/
theorem working_sent (h : Obeys working ends p s) (steps : Steps session p events q) :
    (∀ event ∈ events, event.isDrop = false) ∧
      ∀ statement ∈ sent events, statement.Creates (s.blank ++ taken events) := by
  induction steps generalizing s with
  | none p => simp
  | @step p q r event events step _ ih =>
    obtain ⟨allowed, rest⟩ := h.step step
    obtain ⟨noDrops, creates⟩ := ih rest
    have later : (s.after event).blank ++ taken events ⊆ s.blank ++ taken (event :: events) := by
      have split : taken (event :: events) = taken [event] ++ taken events := by simp
      rw [split, ← List.append_assoc]
      exact List.append_subset.2 ⟨List.subset_append_of_subset_left _ (blank_after s event),
        List.subset_append_right ..⟩
    constructor
    · rintro other (_ | ⟨_, mem⟩)
      · exact working_isDrop allowed
      · exact noDrops other mem
    · intro statement mem
      rw [sent_cons, List.mem_append] at mem
      rcases mem with mem | mem
      · cases event with
        | send statement reply =>
          cases List.mem_singleton.1 mem
          exact (working_creates allowed).mono (List.subset_append_left ..)
        | _ => cases mem
      · exact (creates statement mem).mono later

theorem held_after {event : Event} (h : working.allows s event) :
    (s.after event).held = (taken [event]).reverse ++ s.held := by
  cases event with
  | take table => rfl
  | look cancelled => rfl
  | send statement reply =>
    cases statement with
    | drop name => exact h.elim
    | _ => rfl

/-- A working program takes at most one table for each purpose. -/
theorem working_purposes (h : Obeys working ends p s) (steps : Steps session p events q)
    (apart : s.held.Pairwise fun a b => a.purpose ≠ b.purpose) :
    ((taken events).reverse ++ s.held).Pairwise fun a b => a.purpose ≠ b.purpose := by
  induction steps generalizing s with
  | none p => simpa using apart
  | @step p q r event events step _ ih =>
    obtain ⟨allowed, rest⟩ := h.step step
    have held := held_after allowed
    have next : (s.after event).held.Pairwise fun a b => a.purpose ≠ b.purpose := by
      cases event with
      | take table => exact List.pairwise_cons.2 ⟨fun b mem => (allowed b mem).symm, apart⟩
      | _ => rw [held]; exact apart
    have := ih rest next
    change ((taken events).reverse ++ (s.after event).held).Pairwise _ at this
    rw [held, ← List.append_assoc, ← List.reverse_append] at this
    rwa [taken_cons]

end Holdings

section Taken

variable {names : TypeNames} {request : Request} {mark : Mark} {session : String}
  {events : List Event} {p : Program Prepared}

theorem Request.taken_purposes (steps : Steps session (request.steps names mark) events p) :
    (taken events).Pairwise fun a b => a.purpose ≠ b.purpose := by
  have apart := Holdings.working_purposes Holdings.steps_working steps List.Pairwise.nil
  rw [List.append_nil, List.pairwise_reverse] at apart
  exact apart.imp fun different => different.symm

theorem Request.taken_nodup (steps : Steps session (request.steps names mark) events p) :
    ((taken events).map TempTable.name).Nodup := by
  refine List.pairwise_map.2 ((Request.taken_purposes steps).imp ?_)
  intro a b different same
  exact different (TempTable.purpose_of_name same)

end Taken

variable {names : TypeNames} {request : Request} {session : String} {events : List Event}
  {result : Except Error Prepared}

/-- A run of a valid request does its work, and then drops what it has taken. -/
theorem Request.work_of_prepare {mark : Mark} (valid : request.validate = .ok mark)
    (run : Steps session (request.prepare names) events (done result)) :
    Steps session (request.steps names mark) (withoutDrops events) (done result) ∧
      ∃ drops, events = withoutDrops events ++ drops ∧
        sent drops = (taken events).reverse.map fun table => .drop table.name := by
  unfold prepare at run
  rw [valid] at run
  obtain ⟨work, last, rfl, steps, drops, cleanup⟩ := run.withCleanup_done
  obtain ⟨keeps, -⟩ := Holdings.working_sent Holdings.steps_working steps
  rw [withoutDrops_append keeps drops]
  refine ⟨steps, last, rfl, ?_⟩
  rw [cleanup, taken_append, taken_of_drops drops, List.append_nil, List.append_nil]

/-- However the engine replies, and whenever the run is cancelled, a run of a
valid request first does its work, which drops nothing, and then sends exactly
one drop for each table that it has taken, the last one first. It creates only
tables that it drops, and the replies to the drops do not matter for its result.
A request that breaks a rule takes no table and sends nothing. -/
theorem prepare_cleans_up
    (run : Steps session (request.prepare names) events (done result)) :
    (∀ e, request.validate = .error e → result = .error e ∧ events = []) ∧
    ∀ mark, request.validate = .ok mark →
      (∃ work, sent events =
          work ++ (taken events).reverse.map (fun table => .drop table.name) ∧
        ∀ statement ∈ work, statement.Creates (taken events)) ∧
      ((taken events).map TempTable.name).Nodup ∧
      ∀ other result', Steps session (request.prepare names) other (done result') →
        withoutDrops other = withoutDrops events → result' = result := by
  unfold Request.prepare at run ⊢
  constructor
  · intro e invalid
    rw [invalid] at run
    obtain ⟨nothing, same⟩ := steps_done run
    cases same
    exact ⟨rfl, nothing⟩
  · intro mark valid
    simp only [valid] at run ⊢
    obtain ⟨first, last, rfl, steps, drops, cleanup⟩ := run.withCleanup_done
    obtain ⟨keeps, creates⟩ := Holdings.working_sent Holdings.steps_working steps
    have all : taken (first ++ last) = taken first := by simp [taken_of_drops drops]
    refine ⟨⟨sent first, ?_, ?_⟩, ?_, ?_⟩
    · rw [sent_append, cleanup, all, List.append_nil]
    · simpa [all] using creates
    · rw [all]
      exact Request.taken_nodup steps
    · intro other result' run' same
      obtain ⟨first', last', rfl, steps', drops', -⟩ := run'.withCleanup_done
      obtain ⟨keeps', -⟩ := Holdings.working_sent Holdings.steps_working steps'
      rw [withoutDrops_append keeps' drops', withoutDrops_append keeps drops] at same
      subst same
      have := steps'.deterministic steps
      exact Program.done.inj this

/-- A bar chart of amounts by region, from a pre-query. -/
def sales : Request where
  mark := some .barY
  preQuery := some "SELECT * FROM raw;"
  encoding := { Encoding.empty with x := ["region"], y := ["amount"] }

/-- A run that is cancelled while its pre-query is answered, and whose drop is
refused. -/
def interruptedSales : List Event :=
  let table : TempTable := ⟨.preQuery, "s", 7⟩
  [.take table, .look false,
    .send (Request.preQueryStatement "SELECT * FROM raw;" table) (.ok .empty), .look true,
    .send (.drop table.name) (.error (.engine "busy"))]

theorem steps_interruptedSales :
    Steps "s" (sales.prepare .duckdb) interruptedSales (done (.error .cancelled)) :=
  .step (.take ..) <| .step (.look ..) <| .step (.send ..) <| .step (.look ..) <|
    .step (.send ..) <| .none _

theorem interruptedSales_cleans_up :
    Steps "s" (sales.prepare .duckdb) interruptedSales (done (.error .cancelled)) ∧
      ∃ work, sent interruptedSales = work ++ [.drop (TempTable.name ⟨.preQuery, "s", 7⟩)] ∧
        ∀ statement ∈ work, statement.Creates [⟨.preQuery, "s", 7⟩] := by
  obtain ⟨-, accepted⟩ := prepare_cleans_up steps_interruptedSales
  exact ⟨steps_interruptedSales, (accepted .barY rfl).1⟩

end ChartQuery
