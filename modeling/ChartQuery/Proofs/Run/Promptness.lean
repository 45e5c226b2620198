import ChartQuery.Proofs.Run.Cleanup
import ChartQuery.Proofs.Run.Renaming
import Mathlib.Data.List.Forall2

/-!
# Cancellation is prompt

Between two statements a run always looks whether it is cancelled, and after a
look it either stops or sends a statement. So a run that is cancelled while a
statement is answered sends nothing more, and what it has sent is what it would
have sent without the cancellation.

Main statement: `cancellation_is_prompt`.
-/

namespace ChartQuery

open Program Event

/-- Where a run stands with its looks. -/
inductive Stance where
  /-- It has not looked since its last statement. -/
  | fresh
  /-- It has looked, and goes on. -/
  | looked
  /-- It has found out that it is cancelled. -/
  | stopped

/-- The replies to the statements that both logs have in one place are alike. -/
def RepliesAlike (tables tables' : Tables) (log log' : List Exchange) : Prop :=
  ∀ (place : Nat) (exchange exchange' : Exchange), log[place]? = some exchange →
    log'[place]? = some exchange' → Reply.Alike tables tables' exchange.reply exchange'.reply

theorem RepliesAlike.tail {tables tables' : Tables} {first first' : Exchange}
    {log log' : List Exchange} (h : RepliesAlike tables tables' (first :: log) (first' :: log')) :
    RepliesAlike tables tables' log log' := by
  intro place exchange exchange' here here'
  exact h (place + 1) exchange exchange' (by simpa using here) (by simpa using here')

/-- An event of a run that takes these tables and drops none. -/
def Event.Uses (tables : Tables) : Event → Prop
  | .take table => tables table.purpose = table
  | .look _ => True
  | .send statement _ => statement.isDrop = false

theorem Event.uses_of_taken {tables : Tables} {events : List Event}
    (took : ∀ table ∈ taken events, tables table.purpose = table)
    (keeps : ∀ event ∈ events, event.isDrop = false) {event : Event} (mem : event ∈ events) :
    event.Uses tables := by
  cases event with
  | take table => exact took table (List.mem_filterMap.2 ⟨_, mem, rfl⟩)
  | look cancelled => trivial
  | send statement reply => exact keeps _ mem

namespace Stance

def after (s : Stance) : Event → Stance
  | .take _ => s
  | .look true => stopped
  | .look false => looked
  | .send .. => fresh

/-- Statements are sent after a look only, and a run that is stopped does nothing. -/
def prompt : Discipline Stance where
  allows s event :=
    match s, event with
    | fresh, .send .. => False
    | stopped, _ => False
    | _, _ => True
  after := after

def ends {α : Type} (s : Stance) : Except Error α → Prop
  | .ok _ => s = fresh
  | .error e => s = fresh ∨ s = stopped ∧ e = .cancelled

section Stages

variable {α β : Type} {names : TypeNames} {request : Request} {mark : Mark}

theorem prompt_consult {s : Stance} (live : s ≠ stopped) {statement : Statement}
    {read : Frame → Except Error β} {next : β → Program α}
    (rest : ∀ b, Obeys prompt ends (next b) fresh) :
    Obeys prompt ends (checkpoint.bind fun _ => (consult statement read).bind next) s := by
  have looks (cancelled : Bool) : prompt.allows s (.look cancelled) := by
    cases s with
    | fresh => trivial
    | looked => trivial
    | stopped => exact live rfl
  refine obeys_checkpoint.2 ⟨⟨looks true, .inr ⟨rfl, rfl⟩⟩, looks false, ?_⟩
  exact obeys_consult.2 fun reply => ⟨trivial, fun _ _ => .inl rfl, fun b _ => rest b⟩

theorem openSource_prompt : Obeys prompt ends request.openSource fresh := by
  rw [Request.openSource_eq]
  split
  · rfl
  · rw [obeys_temp]
    intro table _
    refine ⟨trivial, prompt_consult (by simp [prompt, after]) fun _ => rfl⟩

theorem reshaping_prompt (source : String) :
    Obeys prompt ends (request.reshaping mark source) fresh := by
  unfold Request.reshaping
  apply prompt_consult (by simp)
  intro schema
  rw [obeys_temp]
  intro table _
  refine ⟨trivial, prompt_consult (by simp [prompt, after]) fun _ => ?_⟩
  exact prompt_consult (by simp) fun _ => rfl

theorem isDistinct_prompt (schema : Schema) (table : String) :
    Obeys prompt (fun s result => s ≠ stopped ∧ ∀ e, result = .error e → s = fresh)
      (isDistinct mark schema table) looked := by
  rw [isDistinct_eq]
  split
  · simp
  · intro reply
    exact ⟨trivial, by simp [prompt, after]⟩

theorem finishing_prompt (preQuery : Option String) (table : Request.Reshaped) :
    Obeys prompt ends (request.finishing names mark preQuery table) fresh := by
  unfold Request.finishing
  refine obeys_checkpoint.2 ⟨⟨trivial, .inr ⟨rfl, rfl⟩⟩, trivial, ?_⟩
  apply (isDistinct_prompt table.schema table.reference).bind
  · intro s e ⟨_, failed⟩
    exact .inl (failed e rfl)
  · intro s distinct ⟨live, _⟩
    exact prompt_consult live fun data => rfl

theorem steps_prompt : Obeys prompt ends (request.steps names mark) fresh := by
  rw [Request.steps_eq]
  apply openSource_prompt.bind
  · intro s e stance
    exact stance
  intro s opened stance
  cases stance
  apply (reshaping_prompt opened.1).bind
  · intro s e stance
    exact stance
  intro s table stance
  cases stance
  exact finishing_prompt opened.2 table

end Stages

section Lockstep

variable {α β : Type} {session session' : String}

theorem stopped_ends {p : Program α} {events : List Event} {result : Except Error α}
    (h : Obeys prompt ends p stopped) (steps : Steps session p events (done result)) :
    events = [] ∧ result = .error .cancelled := by
  cases steps with
  | none =>
    refine ⟨rfl, ?_⟩
    cases result with
    | ok a => cases h
    | error e =>
      rcases h with h | ⟨-, same⟩
      · cases h
      · rw [same]
  | step step _ =>
    have allowed := (h.step step).1
    exact allowed.elim

/-- A run that has looked, and is not cancelled, has a statement to send. -/
theorem looked_sends {p : Program α} {events : List Event} {result : Except Error α}
    {answered : Nat} (h : Obeys prompt ends p looked)
    (steps : Steps session p events (done result)) (never : SeenAs .never answered events) :
    sent events ≠ [] := by
  induction p generalizing events answered with
  | done value =>
    cases value with
    | ok a => cases h
    | error e => rcases h with h | ⟨h, -⟩ <;> cases h
  | allocate purpose next ih =>
    obtain ⟨number, rest, rfl, more⟩ := steps_allocate steps
    have later := (h ⟨purpose, session, number⟩ rfl).2
    simpa using ih _ later more never
  | poll next ih =>
    obtain ⟨cancelled, rest, rfl, more⟩ := steps_poll steps
    obtain ⟨seen, never⟩ := never
    subst seen
    have later := (h false).2
    simpa using ih _ later more never
  | submit statement next ih =>
    obtain ⟨reply, rest, rfl, more⟩ := steps_submit steps
    simp

/-- Two programs that are alike, with what each of them does from here on. Only
the second one has a token. -/
structure Paired (tables tables' : Tables) (values : α → β → Prop) (token : Cancellation)
    (s : Stance) (answered : Nat) (p : Program α) (p' : Program β) (events events' : List Event) :
    Prop where
  alike : Program.Alike tables tables' values p p'
  stands : Obeys prompt ends p s
  stands' : Obeys prompt ends p' s
  never : SeenAs .never answered events
  seen : SeenAs token answered events'
  uses : ∀ event ∈ events, event.Uses tables
  uses' : ∀ event ∈ events', event.Uses tables'
  replies : RepliesAlike tables tables' (exchanges events) (exchanges events')

section Paired

variable {tables tables' : Tables} {values : α → β → Prop} {token : Cancellation} {s : Stance}
  {answered : Nat} {events events' : List Event}

theorem Paired.take {purpose purpose' : TempPurpose} {next : TempTable → Program α}
    {next' : TempTable → Program β} {number number' : Nat}
    (h : Paired tables tables' values token s answered (allocate purpose next)
      (allocate purpose' next') (.take ⟨purpose, session, number⟩ :: events)
      (.take ⟨purpose', session', number'⟩ :: events')) :
    Paired tables tables' values token s answered (next ⟨purpose, session, number⟩)
      (next' ⟨purpose', session', number'⟩) events events' := by
  obtain ⟨rfl, alike⟩ := h.alike
  have table : tables purpose' = ⟨purpose', session, number⟩ := h.uses _ (List.mem_cons_self ..)
  have table' : tables' purpose' = ⟨purpose', session', number'⟩ :=
    h.uses' _ (List.mem_cons_self ..)
  rw [table, table'] at alike
  constructor
  · exact alike
  · exact (h.stands ⟨purpose', session, number⟩ rfl).2
  · exact (h.stands' ⟨purpose', session', number'⟩ rfl).2
  · exact h.never
  · exact h.seen
  · exact fun event mem => h.uses event (List.mem_cons_of_mem _ mem)
  · exact fun event mem => h.uses' event (List.mem_cons_of_mem _ mem)
  · exact h.replies

theorem Paired.look {next : Bool → Program α} {next' : Bool → Program β}
    (h : Paired tables tables' values token s answered (poll next) (poll next')
      (.look false :: events) (.look false :: events')) :
    Paired tables tables' values token looked answered (next false) (next' false) events
      events' where
  alike := h.alike false
  stands := (h.stands false).2
  stands' := (h.stands' false).2
  never := h.never.2
  seen := h.seen.2
  uses event mem := h.uses event (List.mem_cons_of_mem _ mem)
  uses' event mem := h.uses' event (List.mem_cons_of_mem _ mem)
  replies := h.replies

theorem Paired.send {statement statement' : Statement} {next : Reply → Program α}
    {next' : Reply → Program β} {reply reply' : Reply}
    (h : Paired tables tables' values token s answered (submit statement next)
      (submit statement' next') (.send statement reply :: events)
      (.send statement' reply' :: events')) :
    Paired tables tables' values token fresh (answered + 1) (next reply) (next' reply') events
      events' := by
  have answer : Reply.Alike tables tables' reply reply' :=
    h.replies 0 ⟨statement, reply⟩ ⟨statement', reply'⟩ rfl rfl
  have keeps : statement.isDrop = false := h.uses _ (List.mem_cons_self ..)
  have keeps' : statement'.isDrop = false := h.uses' _ (List.mem_cons_self ..)
  have never := h.never
  have seen := h.seen
  simp only [SeenAs, keeps, keeps', Bool.false_eq_true, if_false] at never seen
  constructor
  · exact h.alike.2 reply reply' answer
  · exact (h.stands reply).2
  · exact (h.stands' reply').2
  · exact never
  · exact seen
  · exact fun event mem => h.uses event (List.mem_cons_of_mem _ mem)
  · exact fun event mem => h.uses' event (List.mem_cons_of_mem _ mem)
  · exact h.replies.tail

/-- A program sends a statement only where it has looked. -/
theorem Paired.looked_of_send {statement : Statement} {next : Reply → Program α}
    {p' : Program β} {reply : Reply}
    (h : Paired tables tables' values token s answered (submit statement next) p'
      (.send statement reply :: events) events') : s = looked := by
  have allowed := (h.stands reply).1
  cases s with
  | fresh => exact allowed.elim
  | looked => rfl
  | stopped => exact allowed.elim

/-- If the token of the second program is set as soon as it has had `count`
answers, both do the same as long as the second one has not found out. -/
theorem lockstep {count : Nat}
    (cancelled : ∀ answered, token.isRequested answered = decide (count ≤ answered))
    {p : Program α} {p' : Program β} {result : Except Error α} {result' : Except Error β}
    (h : Paired tables tables' values token s answered p p' events events')
    (bound : answered ≤ count) (early : s = looked → answered < count)
    (whole : Steps session p events (done result))
    (cut : Steps session' p' events' (done result')) :
    List.Forall₂ (Statement.Alike tables tables')
        ((sent events).take (count - answered)) (sent events') ∧
      ((sent events).length ≤ count - answered →
        ResultsAlike tables tables' values result result') ∧
      (count - answered < (sent events).length → result' = .error .cancelled) := by
  induction p generalizing p' s answered events events' with
  | done value =>
    cases p' with
    | done value' =>
      obtain ⟨rfl, same⟩ := steps_done whole
      obtain ⟨rfl, same'⟩ := steps_done cut
      cases same
      cases same'
      exact ⟨by simp, fun _ => h.alike, by simp⟩
    | _ => exact h.alike.elim
  | allocate purpose next ih =>
    cases p' with
    | allocate purpose' next' =>
      obtain ⟨number, rest, rfl, more⟩ := steps_allocate whole
      obtain ⟨number', rest', rfl, more'⟩ := steps_allocate cut
      simpa using ih _ h.take bound early more more'
    | _ => exact h.alike.elim
  | poll next ih =>
    cases p' with
    | poll next' =>
      obtain ⟨found, rest, rfl, more⟩ := steps_poll whole
      obtain ⟨found', rest', rfl, more'⟩ := steps_poll cut
      have notFound : found = false := h.never.1
      have reached := h.seen.1
      rw [cancelled] at reached
      subst notFound
      by_cases past : count ≤ answered
      · rw [decide_eq_true past] at reached
        subst reached
        have none : count - answered = 0 := by omega
        have some := looked_sends (h.stands false).2 more h.never.2
        obtain ⟨rfl, rfl⟩ := stopped_ends (h.stands' true).2 more'
        simp [none, some]
      · rw [decide_eq_false past] at reached
        subst reached
        have room : looked = looked → answered < count := by omega
        simpa using ih false h.look bound room more more'
    | _ => exact h.alike.elim
  | submit statement next ih =>
    cases p' with
    | submit statement' next' =>
      obtain ⟨reply, rest, rfl, more⟩ := steps_submit whole
      obtain ⟨reply', rest', rfl, more'⟩ := steps_submit cut
      have room := early h.looked_of_send
      have later : fresh = looked → answered + 1 < count := fun looks => by cases looks
      obtain ⟨statements, ends, stops⟩ := ih reply h.send room later more more'
      have counts : count - answered = count - (answered + 1) + 1 := by omega
      rw [counts]
      refine ⟨?_, ?_, ?_⟩
      · exact List.Forall₂.cons h.alike.1 statements
      · intro short
        exact ends (by simpa using short)
      · intro long
        exact stops (by simpa using long)
    | _ => exact h.alike.elim

end Paired

end Lockstep

end Stance

variable {names : TypeNames} {request : Request} {mark : Mark}

theorem exists_tables {taken : List TempTable}
    (apart : taken.Pairwise fun a b => a.purpose ≠ b.purpose) :
    ∃ tables : Tables, ∀ table ∈ taken, tables table.purpose = table := by
  induction taken with
  | nil => exact ⟨fun purpose => ⟨purpose, "", 0⟩, by simp⟩
  | cons first rest ih =>
    obtain ⟨different, apart⟩ := List.pairwise_cons.1 apart
    obtain ⟨tables, same⟩ := ih apart
    refine ⟨fun purpose => if purpose = first.purpose then first else tables purpose, ?_⟩
    intro table mem
    rcases List.mem_cons.1 mem with rfl | mem
    · simp
    · simp [(different table mem).symm, same table mem]

/-- There are tables for all purposes among which are those that a run takes. -/
theorem Request.exists_tables {session : String} {events : List Event} {p : Program Prepared}
    (steps : Steps session (request.steps names mark) events p) :
    ∃ tables : Tables, ∀ table ∈ taken events, tables table.purpose = table :=
  ChartQuery.exists_tables (Request.taken_purposes steps)

theorem Request.before_sends {session : String} {events : List Event}
    {result : Except Error Prepared}
    (steps : Steps session (request.steps names mark) events (done result))
    (seen : SeenAs .before 0 events) : result = .error .cancelled ∧ sent events = [] := by
  rw [Request.steps_eq, Request.openSource_eq] at steps
  cases pre : request.effectivePreQuery with
  | none =>
    rw [pre] at steps
    obtain ⟨found, rest, rfl, more⟩ := steps_poll steps
    obtain ⟨reached, -⟩ := seen
    subst reached
    obtain ⟨rfl, same⟩ := steps_done more
    cases same
    exact ⟨rfl, rfl⟩
  | some query =>
    rw [pre] at steps
    obtain ⟨number, rest, rfl, more⟩ := steps_allocate steps
    obtain ⟨found, rest, rfl, last⟩ := steps_poll more
    obtain ⟨reached, -⟩ := seen
    subst reached
    obtain ⟨rfl, same⟩ := steps_done last
    cases same
    exact ⟨rfl, rfl⟩

/-- Take a run of a valid request that is not cancelled, and one that is cancelled
while statement `n` is answered, with replies that are alike. The second run
sends, apart from its drops, the first `n + 1` statements of the first one, up to
the names of its tables. If there are no more, both end alike, and otherwise the
second one is cancelled. A run that is cancelled before it starts is cancelled
without a statement. -/
theorem cancellation_is_prompt (valid : request.validate = .ok mark) :
    (∀ (n : Nat) (session session' : String) (tables tables' : Tables)
      (events events' : List Event) (result result' : Except Error Prepared),
      Steps session (request.prepare names) events (done result) → SeenAs .never 0 events →
      Steps session' (request.prepare names) events' (done result') →
      SeenAs (.during n) 0 events' →
      (∀ table ∈ taken events, tables table.purpose = table) →
      (∀ table ∈ taken events', tables' table.purpose = table) →
      RepliesAlike tables tables' (exchanges (withoutDrops events))
        (exchanges (withoutDrops events')) →
      let statements := sent (withoutDrops events)
      List.Forall₂ (Statement.Alike tables tables') (statements.take (n + 1))
          (sent (withoutDrops events')) ∧
        (statements.length ≤ n + 1 →
          ResultsAlike tables tables' (Prepared.Alike tables tables') result result') ∧
        (n + 1 < statements.length → result' = .error .cancelled)) ∧
    ∀ (session : String) (events : List Event) (result : Except Error Prepared),
      Steps session (request.prepare names) events (done result) → SeenAs .before 0 events →
      result = .error .cancelled ∧ sent (withoutDrops events) = [] := by
  unfold Request.prepare
  simp only [valid]
  constructor
  · intro n session session' tables tables' events events' result result' whole never cut seen
      took took' replies
    obtain ⟨first, last, rfl, whole, drops, -⟩ := whole.withCleanup_done
    obtain ⟨first', last', rfl, cut, drops', -⟩ := cut.withCleanup_done
    obtain ⟨keeps, -⟩ := Holdings.working_sent Holdings.steps_working whole
    obtain ⟨keeps', -⟩ := Holdings.working_sent Holdings.steps_working cut
    rw [withoutDrops_append keeps drops, withoutDrops_append keeps' drops'] at *
    have token (answered : Nat) :
        (Cancellation.during n).isRequested answered = decide (n + 1 ≤ answered) := rfl
    have paired : Stance.Paired tables tables' (Prepared.Alike tables tables') (.during n) .fresh 0
        (request.steps names mark) (request.steps names mark) first first' := by
      constructor
      · exact Request.steps_alike tables tables'
      · exact Stance.steps_prompt
      · exact Stance.steps_prompt
      · exact never.left
      · exact seen.left
      · exact fun event => uses_of_taken (fun table mem => took table (by simp [mem])) keeps
      · exact fun event => uses_of_taken (fun table mem => took' table (by simp [mem])) keeps'
      · exact replies
    exact Stance.lockstep token paired (Nat.zero_le _) (fun looks => by cases looks) whole cut
  · intro session events result run seen
    obtain ⟨first, last, rfl, steps, drops, -⟩ := run.withCleanup_done
    obtain ⟨keeps, -⟩ := Holdings.working_sent Holdings.steps_working steps
    rw [withoutDrops_append keeps drops]
    exact Request.before_sends steps seen.left

/-- A run like `interruptedSales` that is not cancelled. Its source cannot be
described. -/
def refusedSales : List Event :=
  let table : TempTable := ⟨.preQuery, "t", 0⟩
  [.take table, .look false,
    .send (Request.preQueryStatement "SELECT * FROM raw;" table) (.ok .empty), .look false,
    .send (.describe (quoteName table.name)) (.error (.engine "no such table")),
    .send (.drop table.name) (.ok .empty)]

theorem steps_refusedSales :
    Steps "t" (sales.prepare .duckdb) refusedSales (done (.error (.engine "no such table"))) :=
  .step (.take ..) <| .step (.look ..) <| .step (.send ..) <| .step (.look ..) <|
    .step (.send ..) <| .step (.send ..) <| .none _

theorem interruptedSales_is_prompt :
    sales.validate = .ok .barY ∧
      SeenAs .never 0 refusedSales ∧ SeenAs (.during 0) 0 interruptedSales ∧
      RepliesAlike (fun purpose => ⟨purpose, "t", 0⟩) (fun purpose => ⟨purpose, "s", 7⟩)
        (exchanges (withoutDrops refusedSales)) (exchanges (withoutDrops interruptedSales)) ∧
      List.Forall₂
        (Statement.Alike (fun purpose => ⟨purpose, "t", 0⟩) (fun purpose => ⟨purpose, "s", 7⟩))
        ((sent (withoutDrops refusedSales)).take 1) (sent (withoutDrops interruptedSales)) := by
  have never : SeenAs .never 0 refusedSales := ⟨rfl, rfl, trivial⟩
  have during : SeenAs (.during 0) 0 interruptedSales := ⟨rfl, rfl, trivial⟩
  have replies : RepliesAlike (fun purpose => ⟨purpose, "t", 0⟩) (fun purpose => ⟨purpose, "s", 7⟩)
      (exchanges (withoutDrops refusedSales)) (exchanges (withoutDrops interruptedSales)) := by
    intro place exchange exchange' here here'
    cases place with
    | zero =>
      cases here
      cases here'
      rfl
    | succ place => cases here'
  have valid : sales.validate = .ok .barY := rfl
  have prompt := (cancellation_is_prompt valid).1 0 "t" "s"
    (fun purpose => ⟨purpose, "t", 0⟩) (fun purpose => ⟨purpose, "s", 7⟩) refusedSales
    interruptedSales _ _ steps_refusedSales never steps_interruptedSales during
    (by simp [refusedSales]) (by simp [interruptedSales]) replies
  exact ⟨valid, never, during, replies, prompt.1⟩

end ChartQuery
