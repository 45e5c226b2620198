import ChartQuery.Run.Program

/-!
# What a program can do

`Program.run` fixes everything that lies outside a program: the engine, the
moment of cancellation and the numbers of the tables. Here nothing is fixed. A
step of a program takes a table of any number, looks and finds anything, or
sends a statement and is given any reply. What holds along all steps holds for
every engine, every moment of cancellation and every order in which several
programs take their turns.

Main statements: `steps_run` finds a run among the steps, and
`Steps.withCleanup_done` cuts a finished sequence of steps at the place where
the cleanup begins.
-/

namespace ChartQuery

/-- What a program does in one step, with the answer from outside. -/
inductive Event where
  | take (table : TempTable)
  | look (cancelled : Bool)
  | send (statement : Statement) (reply : Reply)

namespace Event

@[simp] def table? : Event → Option TempTable
  | take table => some table
  | _ => none

@[simp] def exchange? : Event → Option Exchange
  | send statement reply => some ⟨statement, reply⟩
  | _ => none

def isDrop : Event → Bool
  | send statement _ => statement.isDrop
  | _ => false

def withoutDrops (events : List Event) : List Event := events.filter fun event => !event.isDrop

/-- The tables taken in a sequence of events, the first one first. -/
def taken (events : List Event) : List TempTable := events.filterMap table?

/-- The statements sent in a sequence of events, with their replies. -/
def exchanges (events : List Event) : List Exchange := events.filterMap exchange?

def sent (events : List Event) : List Statement := (exchanges events).map Exchange.statement

@[simp] theorem taken_nil : taken [] = [] := rfl

@[simp] theorem taken_cons (event : Event) (events : List Event) :
    taken (event :: events) = event.table?.toList ++ taken events := by
  cases event <;> rfl

@[simp] theorem taken_append (first last : List Event) :
    taken (first ++ last) = taken first ++ taken last := List.filterMap_append

theorem taken_of_drops {events : List Event} (drops : ∀ event ∈ events, event.isDrop) :
    taken events = [] := by
  refine List.filterMap_eq_nil_iff.2 fun event mem => ?_
  have drop := drops event mem
  cases event <;> simp_all [isDrop, table?]

theorem withoutDrops_append {first last : List Event}
    (keeps : ∀ event ∈ first, event.isDrop = false) (drops : ∀ event ∈ last, event.isDrop) :
    withoutDrops (first ++ last) = first := by
  have kept : first.filter (fun event => !event.isDrop) = first :=
    List.filter_eq_self.2 fun event mem => by simp [keeps event mem]
  have gone : last.filter (fun event => !event.isDrop) = [] :=
    List.filter_eq_nil_iff.2 fun event mem => by simp [drops event mem]
  rw [withoutDrops, List.filter_append, kept, gone, List.append_nil]

@[simp] theorem exchanges_nil : exchanges [] = [] := rfl

@[simp] theorem exchanges_cons (event : Event) (events : List Event) :
    exchanges (event :: events) = event.exchange?.toList ++ exchanges events := by
  cases event <;> rfl

@[simp] theorem exchanges_append (first last : List Event) :
    exchanges (first ++ last) = exchanges first ++ exchanges last := List.filterMap_append

theorem exchanges_withoutDrops (events : List Event) :
    exchanges (withoutDrops events) =
      (exchanges events).filter fun exchange => !exchange.statement.isDrop := by
  induction events with
  | nil => rfl
  | cons event events ih =>
    cases event with
    | send statement reply =>
      cases drop : statement.isDrop <;> simpa [withoutDrops, isDrop, drop] using ih
    | _ => simpa [withoutDrops, isDrop] using ih

@[simp] theorem sent_nil : sent [] = [] := rfl

@[simp] theorem sent_cons (event : Event) (events : List Event) :
    sent (event :: events) = (event.exchange?.map Exchange.statement).toList ++ sent events := by
  cases event <;> rfl

@[simp] theorem sent_append (first last : List Event) :
    sent (first ++ last) = sent first ++ sent last := by
  simp [sent]

/-- Each look finds what a token tells after so many answers. -/
def SeenAs (cancellation : Cancellation) : Nat → List Event → Prop
  | _, [] => True
  | answered, .take _ :: rest => SeenAs cancellation answered rest
  | answered, .look cancelled :: rest =>
    cancelled = cancellation.isRequested answered ∧ SeenAs cancellation answered rest
  | answered, .send statement _ :: rest =>
    SeenAs cancellation (if statement.isDrop then answered else answered + 1) rest

theorem SeenAs.left {cancellation : Cancellation} {answered : Nat} {first last : List Event}
    (h : SeenAs cancellation answered (first ++ last)) : SeenAs cancellation answered first := by
  induction first generalizing answered with
  | nil => trivial
  | cons event first ih =>
    cases event with
    | take table => exact ih h
    | look cancelled => exact ⟨h.1, ih h.2⟩
    | send statement reply => exact ih h

/-- Drops do not count for a token. -/
theorem SeenAs.withoutDrops {cancellation : Cancellation} {answered : Nat} {events : List Event}
    (h : SeenAs cancellation answered events) :
    SeenAs cancellation answered (withoutDrops events) := by
  induction events generalizing answered with
  | nil => trivial
  | cons event events ih =>
    cases event with
    | take table => exact ih h
    | look cancelled => exact ⟨h.1, ih h.2⟩
    | send statement reply =>
      cases drop : statement.isDrop with
      | true =>
        have kept : Event.withoutDrops (.send statement reply :: events) =
            Event.withoutDrops events := by
          simp [Event.withoutDrops, isDrop, drop]
        rw [kept]
        exact ih (by simpa [SeenAs, drop] using h)
      | false =>
        have kept : Event.withoutDrops (.send statement reply :: events) =
            .send statement reply :: Event.withoutDrops events := by
          simp [Event.withoutDrops, isDrop, drop]
        rw [kept]
        exact ih h

/-- A token that is never cancelled is never found cancelled. -/
theorem SeenAs.goes {events : List Event} {answered : Nat}
    (h : SeenAs .never answered events) : .look true ∉ events := by
  induction events generalizing answered with
  | nil => simp
  | cons event events ih =>
    cases event with
    | take table => simpa using ih h
    | look cancelled =>
      have goes : cancelled = false := h.1
      simpa [goes] using ih h.2
    | send statement reply => simpa using ih h

end Event

open Event

namespace Program

variable {α β : Type} {session : String}

inductive Step (session : String) : Program α → Event → Program α → Prop where
  | take (purpose : TempPurpose) (next : TempTable → Program α) (number : Nat) :
    Step session (allocate purpose next) (.take ⟨purpose, session, number⟩)
      (next ⟨purpose, session, number⟩)
  | look (next : Bool → Program α) (cancelled : Bool) :
    Step session (poll next) (.look cancelled) (next cancelled)
  | send (statement : Statement) (next : Reply → Program α) (reply : Reply) :
    Step session (submit statement next) (.send statement reply) (next reply)

inductive Steps (session : String) : Program α → List Event → Program α → Prop where
  | none (p : Program α) : Steps session p [] p
  | step {p q r : Program α} {event : Event} {events : List Event} :
    Step session p event q → Steps session q events r → Steps session p (event :: events) r

theorem Step.deterministic {p q r : Program α} {event : Event} (first : Step session p event q)
    (second : Step session p event r) : q = r := by
  cases first <;> cases second <;> rfl

theorem Step.session_eq {p q : Program α} {table : TempTable}
    (h : Step session p (.take table) q) : table.session = session := by
  cases h
  rfl

/-- The tables that a program takes are tables of its session. -/
theorem Steps.session_eq {p q : Program α} {events : List Event} {table : TempTable}
    (h : Steps session p events q) (mem : table ∈ taken events) : table.session = session := by
  induction h with
  | none p => cases mem
  | @step p q r event events step _ ih =>
    rw [taken_cons, List.mem_append] at mem
    rcases mem with mem | mem
    · cases event with
      | take other =>
        cases List.mem_singleton.1 mem
        exact step.session_eq
      | look cancelled => cases mem
      | send statement reply => cases mem
    · exact ih mem

theorem Steps.deterministic {p q r : Program α} {events : List Event}
    (first : Steps session p events q) (second : Steps session p events r) : q = r := by
  induction first with
  | none p => cases second; rfl
  | step step _ ih =>
    cases second with
    | step other rest => exact ih (step.deterministic other ▸ rest)

theorem steps_done {result : Except Error α} {events : List Event} {p : Program α}
    (h : Steps session (done result) events p) : events = [] ∧ p = done result := by
  cases h with
  | none => exact ⟨rfl, rfl⟩
  | step step => cases step

theorem steps_allocate {purpose : TempPurpose} {next : TempTable → Program α}
    {result : Except Error α} {events : List Event}
    (h : Steps session (allocate purpose next) events (done result)) :
    ∃ number rest, events = .take ⟨purpose, session, number⟩ :: rest ∧
      Steps session (next ⟨purpose, session, number⟩) rest (done result) := by
  cases h with
  | step step rest =>
    cases step with
    | take _ _ number => exact ⟨number, _, rfl, rest⟩

theorem steps_poll {next : Bool → Program α} {result : Except Error α} {events : List Event}
    (h : Steps session (poll next) events (done result)) :
    ∃ cancelled rest, events = .look cancelled :: rest ∧
      Steps session (next cancelled) rest (done result) := by
  cases h with
  | step step rest =>
    cases step with
    | look _ cancelled => exact ⟨cancelled, _, rfl, rest⟩

theorem steps_submit {statement : Statement} {next : Reply → Program α}
    {result : Except Error α} {events : List Event}
    (h : Steps session (submit statement next) events (done result)) :
    ∃ reply rest, events = .send statement reply :: rest ∧
      Steps session (next reply) rest (done result) := by
  cases h with
  | step step rest =>
    cases step with
    | send _ _ reply => exact ⟨reply, _, rfl, rest⟩

theorem Steps.append {p q r : Program α} {first last : List Event}
    (h : Steps session p first q) (k : Steps session q last r) :
    Steps session p (first ++ last) r := by
  induction h with
  | none p => exact k
  | step step _ ih => exact .step step (ih k)

/-- A run is a sequence of steps to its result, with its transcript. Each look finds
what the token of the run tells, and the tables are numbered one after another. -/
theorem steps_run_numbered (setting : Setting) (p : Program α) (start : Position) :
    ∃ events, Steps setting.session p events (done (p.run setting start).result) ∧
      exchanges events = (p.run setting start).transcript ∧
      SeenAs setting.cancellation start.answered events ∧
      (taken events).map TempTable.number =
        List.range' start.nextTable (taken events).length := by
  induction p generalizing start with
  | done result => exact ⟨[], .none _, rfl, trivial, rfl⟩
  | allocate purpose next ih =>
    obtain ⟨events, steps, same, seen, numbers⟩ := ih
      ⟨purpose, setting.session, start.nextTable⟩ { start with nextTable := start.nextTable + 1 }
    refine ⟨_, .step (.take purpose next start.nextTable) steps, same, seen, ?_⟩
    simp [numbers, List.range'_succ]
  | poll next ih =>
    obtain ⟨events, steps, same, seen, numbers⟩ :=
      ih (setting.cancellation.isRequested start.answered) start
    exact ⟨_, .step (.look next _) steps, same, ⟨rfl, seen⟩, numbers⟩
  | submit statement next ih =>
    obtain ⟨events, steps, same, seen, numbers⟩ :=
      ih (setting.reply start statement) (start.after statement)
    refine ⟨_, .step (.send statement next _) steps, by simp [same, run], ?_, ?_⟩
    · have answered : (start.after statement).answered =
          if statement.isDrop then start.answered else start.answered + 1 := by
        unfold Position.after
        split <;> rfl
      rwa [answered] at seen
    · have nextTable : (start.after statement).nextTable = start.nextTable := by
        unfold Position.after
        split <;> rfl
      rwa [nextTable] at numbers

theorem steps_run (setting : Setting) (p : Program α) (start : Position) :
    ∃ events, Steps setting.session p events (done (p.run setting start).result) ∧
      exchanges events = (p.run setting start).transcript ∧
      SeenAs setting.cancellation start.answered events := by
  obtain ⟨events, steps, same, seen, -⟩ := steps_run_numbered setting p start
  exact ⟨events, steps, same, seen⟩

@[simp] theorem pure_eq (a : α) : (pure a : Program α) = done (.ok a) := rfl

@[simp] theorem bind_eq (p : Program α) (f : α → Program β) : p >>= f = p.bind f := rfl

@[simp] theorem bind_ok (a : α) (f : α → Program β) : (done (.ok a)).bind f = f a := rfl

@[simp] theorem bind_error (e : Error) (f : α → Program β) :
    (done (.error e)).bind f = done (.error e) := rfl

theorem bind_assoc {γ : Type} (p : Program α) (f : α → Program β) (g : β → Program γ) :
    (p.bind f).bind g = p.bind fun a => (f a).bind g := by
  induction p with
  | done result => cases result <;> rfl
  | allocate purpose next ih => simp only [bind, ih]
  | poll next ih => simp only [bind, ih]
  | submit statement next ih => simp only [bind, ih]

/-- Two programs one after the other end with an error of the first one, or the first
one has a value from which the second one goes on. -/
theorem steps_bind {p : Program α} {f : α → Program β} {events : List Event}
    {result : Except Error β} (h : Steps session (p.bind f) events (done result)) :
    (∃ e, result = .error e ∧ Steps session p events (done (.error e))) ∨
      ∃ a first last, events = first ++ last ∧ Steps session p first (done (.ok a)) ∧
        Steps session (f a) last (done result) := by
  induction p generalizing events with
  | done value =>
    cases value with
    | ok a => exact .inr ⟨a, [], events, rfl, .none _, h⟩
    | error e =>
      obtain ⟨rfl, same⟩ := steps_done h
      cases same
      exact .inl ⟨e, rfl, .none _⟩
  | allocate purpose next ih =>
    obtain ⟨number, rest, rfl, steps⟩ := steps_allocate h
    obtain ⟨e, same, steps⟩ | ⟨a, first, last, rfl, steps, more⟩ := ih _ steps
    · exact .inl ⟨e, same, .step (.take ..) steps⟩
    · exact .inr ⟨a, _, last, rfl, .step (.take ..) steps, more⟩
  | poll next ih =>
    obtain ⟨cancelled, rest, rfl, steps⟩ := steps_poll h
    obtain ⟨e, same, steps⟩ | ⟨a, first, last, rfl, steps, more⟩ := ih _ steps
    · exact .inl ⟨e, same, .step (.look ..) steps⟩
    · exact .inr ⟨a, _, last, rfl, .step (.look ..) steps, more⟩
  | submit statement next ih =>
    obtain ⟨reply, rest, rfl, steps⟩ := steps_submit h
    obtain ⟨e, same, steps⟩ | ⟨a, first, last, rfl, steps, more⟩ := ih _ steps
    · exact .inl ⟨e, same, .step (.send ..) steps⟩
    · exact .inr ⟨a, _, last, rfl, .step (.send ..) steps, more⟩

def Yields (P : α → Prop) : Program α → Prop
  | done result => ∀ a, result = .ok a → P a
  | allocate _ next => ∀ table, Yields P (next table)
  | poll next => ∀ cancelled, Yields P (next cancelled)
  | submit _ next => ∀ reply, Yields P (next reply)

theorem yields_bind {P : β → Prop} (p : Program α) {f : α → Program β}
    (h : ∀ a, (f a).Yields P) : (p.bind f).Yields P := by
  induction p with
  | done result =>
    cases result with
    | ok a => exact h a
    | error e => intro b same; cases same
  | allocate purpose next ih => exact fun table => ih table
  | poll next ih => exact fun cancelled => ih cancelled
  | submit statement next ih => exact fun reply => ih reply

theorem bind_congr {P : α → Prop} {p : Program α} {f g : α → Program β} (h : p.Yields P)
    (same : ∀ a, P a → f a = g a) : p.bind f = p.bind g := by
  induction p with
  | done result =>
    cases result with
    | ok a => exact same a (h a rfl)
    | error e => rfl
  | allocate purpose next ih =>
    exact congrArg (allocate purpose) (funext fun table => ih table (h table))
  | poll next ih => exact congrArg poll (funext fun cancelled => ih cancelled (h cancelled))
  | submit statement next ih =>
    exact congrArg (submit statement) (funext fun reply => ih reply (h reply))

/-- A statement whose reply is read in some way, unless it is a refusal. -/
def consult (statement : Statement) (read : Frame → Except Error α) : Program α :=
  submit statement fun reply => done (reply.bind read)

theorem ask_bind_done (statement : Statement) (read : Frame → Except Error α) :
    ((ask statement).bind fun frame => done (read frame)) = consult statement read := by
  simp only [ask, bind, consult]
  congr
  funext reply
  cases reply <;> rfl

/-- Dropping tables sends one statement for each, whatever the replies are. -/
theorem steps_dropEach {held : List TempTable} {rest result : Except Error α} {events : List Event}
    (h : Steps session ((dropEach held).bind fun _ => done rest) events (done result)) :
    result = rest ∧ (∀ event ∈ events, event.isDrop) ∧
      sent events = held.map fun table => .drop table.name := by
  induction held generalizing events with
  | nil =>
    obtain ⟨rfl, same⟩ := steps_done h
    cases same
    exact ⟨rfl, by simp, rfl⟩
  | cons table held ih =>
    obtain ⟨reply, later, rfl, steps⟩ := steps_submit h
    obtain ⟨same, drops, sent⟩ := ih steps
    refine ⟨same, ?_, by simp [sent]⟩
    intro event mem
    rcases List.mem_cons.1 mem with rfl | mem
    · rfl
    · exact drops event mem

/-- A program with its cleanup does first what it does by itself, and then drops
the tables that it has taken and held, the last one first. -/
theorem Steps.withCleanup_done {held : List TempTable} {p : Program α} {events : List Event}
    {result : Except Error α} (h : Steps session (p.withCleanup held) events (done result)) :
    ∃ first last, events = first ++ last ∧ Steps session p first (done result) ∧
      (∀ event ∈ last, event.isDrop) ∧
      sent last = ((taken first).reverse ++ held).map fun table => .drop table.name := by
  induction p generalizing held events with
  | done value =>
    obtain ⟨rfl, drops, sent⟩ := steps_dropEach h
    exact ⟨[], events, rfl, .none _, drops, sent⟩
  | allocate purpose next ih =>
    obtain ⟨number, rest, rfl, steps⟩ := steps_allocate h
    obtain ⟨first, last, rfl, steps, drops, sent⟩ := ih _ steps
    exact ⟨_, last, rfl, .step (.take ..) steps, drops, by simpa using sent⟩
  | poll next ih =>
    obtain ⟨cancelled, rest, rfl, steps⟩ := steps_poll h
    obtain ⟨first, last, rfl, steps, drops, sent⟩ := ih _ steps
    exact ⟨_, last, rfl, .step (.look ..) steps, drops, by simpa using sent⟩
  | submit statement next ih =>
    obtain ⟨reply, rest, rfl, steps⟩ := steps_submit h
    obtain ⟨first, last, rfl, steps, drops, sent⟩ := ih _ steps
    exact ⟨_, last, rfl, .step (.send ..) steps, drops, by simpa using sent⟩

end Program

def Outcome.work {α : Type} (outcome : Outcome α) : List Exchange :=
  outcome.transcript.filter fun exchange => !exchange.statement.isDrop

section Work

open Program

variable {α : Type} (setting : Setting) (p : Program α) (start : Position)

/-- What a run has sent but its drops is the log of its steps. -/
theorem steps_work :
    ∃ events, Steps setting.session p events (done (p.run setting start).result) ∧
      exchanges (withoutDrops events) = (p.run setting start).work := by
  obtain ⟨events, steps, log, -⟩ := steps_run setting p start
  exact ⟨events, steps, by rw [Outcome.work, ← log, exchanges_withoutDrops]⟩

/-- The replies of a run are the answers of its engine, in order. -/
theorem reply_of_work {place : Nat} {exchange : Exchange}
    (here : (p.run setting start).work[place]? = some exchange) :
    exchange.reply = setting.engine.answer (start.answered + place) exchange.statement := by
  induction p generalizing start place with
  | done result => cases here
  | allocate purpose next ih =>
    exact ih ⟨purpose, setting.session, start.nextTable⟩
      { start with nextTable := start.nextTable + 1 } here
  | poll next ih => exact ih (setting.cancellation.isRequested start.answered) start here
  | submit statement next ih =>
    cases drop : statement.isDrop with
    | true =>
      have later : (start.after statement).answered = start.answered := by
        simp [Position.after, drop]
      rw [← later]
      apply ih
      simpa [Outcome.work, run, drop] using here
    | false =>
      have later : (start.after statement).answered = start.answered + 1 := by
        simp [Position.after, drop]
      cases place with
      | zero =>
        have first : ⟨statement, setting.reply start statement⟩ = exchange := by
          simpa [Outcome.work, run, drop] using here
        rw [← first]
        simp [Setting.reply, drop]
      | succ place =>
        have rest := @ih (setting.reply start statement) (start.after statement) place
          (by simpa [Outcome.work, run, drop] using here)
        rw [rest, later, Nat.add_assoc, Nat.add_comm 1]

end Work

end ChartQuery
