import ChartQuery.Proofs.Program.Behaviour

/-!
# Disciplines

A discipline watches the events of a program. It has a state, says in each
state which events are allowed, and goes on to the next state with each event.
`Program.Obeys` says of a program that every event it may bring about is
allowed, and that it ends in a state that suits its result. It is defined by
recursion on the program, so that a program is examined once, part by part
(`Obeys.bind`), and the result holds after any steps (`Obeys.steps`).
-/

namespace ChartQuery

structure Discipline (σ : Type) where
  allows : σ → Event → Prop
  after : σ → Event → σ

namespace Discipline

variable {σ : Type}

def afterAll (d : Discipline σ) (s : σ) (events : List Event) : σ := events.foldl d.after s

def record : Discipline (List Event) where
  allows _ _ := True
  after events event := events ++ [event]

@[simp] theorem record_after (events : List Event) (event : Event) :
    record.after events event = events ++ [event] := rfl

theorem afterAll_record (s events : List Event) : record.afterAll s events = s ++ events := by
  induction events generalizing s with
  | nil => simp [afterAll]
  | cons event events ih =>
    change record.afterAll (record.after s event) events = _
    rw [ih, record_after, List.append_assoc]
    rfl

end Discipline

namespace Program

variable {σ α β : Type} {d : Discipline σ} {session : String}

/-- Every event of the program is allowed from a state on, and the program ends
in a state that suits its result. -/
def Obeys (d : Discipline σ) (ends : σ → Except Error α → Prop) : Program α → σ → Prop
  | done result, s => ends s result
  | allocate purpose next, s => ∀ table : TempTable, table.purpose = purpose →
      d.allows s (.take table) ∧ Obeys d ends (next table) (d.after s (.take table))
  | poll next, s => ∀ cancelled,
      d.allows s (.look cancelled) ∧ Obeys d ends (next cancelled) (d.after s (.look cancelled))
  | submit statement next, s => ∀ reply,
      d.allows s (.send statement reply) ∧
        Obeys d ends (next reply) (d.after s (.send statement reply))

/-- Two programs one after the other obey if the first one obeys, and leaves the
second in a state from which it obeys. -/
theorem Obeys.bind {middle : σ → Except Error α → Prop} {ends : σ → Except Error β → Prop}
    {p : Program α} {f : α → Program β} {s : σ} (h : Obeys d middle p s)
    (error : ∀ s e, middle s (.error e) → ends s (.error e))
    (ok : ∀ s a, middle s (.ok a) → Obeys d ends (f a) s) : Obeys d ends (p.bind f) s := by
  induction p generalizing s with
  | done result =>
    cases result with
    | ok a => exact ok s a h
    | error e => exact error s e h
  | allocate purpose next ih =>
    exact fun table same => ⟨(h table same).1, ih table (h table same).2⟩
  | poll next ih => exact fun cancelled => ⟨(h cancelled).1, ih cancelled (h cancelled).2⟩
  | submit statement next ih => exact fun reply => ⟨(h reply).1, ih reply (h reply).2⟩

theorem Obeys.mono {d' : Discipline σ} {ends ends' : σ → Except Error α → Prop} {p : Program α}
    {s : σ} (h : Obeys d ends p s) (allows : ∀ s event, d.allows s event → d'.allows s event)
    (after : d'.after = d.after) (weaker : ∀ s result, ends s result → ends' s result) :
    Obeys d' ends' p s := by
  induction p generalizing s with
  | done result => exact weaker s result h
  | allocate purpose next ih =>
    intro table same
    rw [after]
    exact ⟨allows _ _ (h table same).1, ih table (h table same).2⟩
  | poll next ih =>
    intro cancelled
    rw [after]
    exact ⟨allows _ _ (h cancelled).1, ih cancelled (h cancelled).2⟩
  | submit statement next ih =>
    intro reply
    rw [after]
    exact ⟨allows _ _ (h reply).1, ih reply (h reply).2⟩

section Primitives

variable {ends : σ → Except Error α → Prop} {s : σ}

@[simp] theorem obeys_done {result : Except Error α} :
    Obeys d ends (done result) s ↔ ends s result := Iff.rfl

theorem obeys_temp {purpose : TempPurpose} {next : TempTable → Program α} :
    Obeys d ends ((temp purpose).bind next) s ↔ ∀ table : TempTable, table.purpose = purpose →
      d.allows s (.take table) ∧ Obeys d ends (next table) (d.after s (.take table)) := Iff.rfl

/-- A checkpoint goes on or ends the program. -/
theorem obeys_checkpoint {next : Unit → Program α} :
    Obeys d ends (checkpoint.bind next) s ↔
      (d.allows s (.look true) ∧ ends (d.after s (.look true)) (.error .cancelled)) ∧
        d.allows s (.look false) ∧ Obeys d ends (next ()) (d.after s (.look false)) := by
  constructor
  · intro h
    exact ⟨h true, h false⟩
  · rintro ⟨stops, goes⟩ (_ | _)
    · exact goes
    · exact stops

/-- A statement ends the program if its reply is a refusal or cannot be read. -/
theorem obeys_consult {statement : Statement} {read : Frame → Except Error β}
    {next : β → Program α} :
    Obeys d ends ((consult statement read).bind next) s ↔
      ∀ reply, d.allows s (.send statement reply) ∧
        (∀ e, reply.bind read = .error e → ends (d.after s (.send statement reply)) (.error e)) ∧
        ∀ b, reply.bind read = .ok b →
          Obeys d ends (next b) (d.after s (.send statement reply)) := by
  refine forall_congr' fun reply => and_congr_right fun _ => ?_
  cases h : reply.bind read <;> simp [h]

end Primitives

section Record

variable {ends : List Event → Except Error α → Prop} {start events : List Event}

/- With the events kept, everything is allowed. The events split at `start`, so
that those of the part that runs stay together. -/

theorem record_temp {purpose : TempPurpose} {next : TempTable → Program α}
    (goes : ∀ table : TempTable, table.purpose = purpose →
      Obeys .record ends (next table) (start ++ (events ++ [.take table]))) :
    Obeys .record ends ((temp purpose).bind next) (start ++ events) := by
  rw [obeys_temp]
  intro table same
  have := goes table same
  rw [← List.append_assoc] at this
  exact ⟨trivial, this⟩

theorem record_checkpoint {next : Unit → Program α}
    (stops : ends (start ++ (events ++ [.look true])) (.error .cancelled))
    (goes : Obeys .record ends (next ()) (start ++ (events ++ [.look false]))) :
    Obeys .record ends (checkpoint.bind next) (start ++ events) := by
  rw [← List.append_assoc] at stops goes
  rw [obeys_checkpoint]
  exact ⟨⟨trivial, stops⟩, trivial, goes⟩

theorem record_consult {statement : Statement} {read : Frame → Except Error β}
    {next : β → Program α}
    (fails : ∀ reply e, reply.bind read = .error e →
      ends (start ++ (events ++ [.send statement reply])) (.error e))
    (goes : ∀ reply b, reply.bind read = .ok b →
      Obeys .record ends (next b) (start ++ (events ++ [.send statement reply]))) :
    Obeys .record ends ((consult statement read).bind next) (start ++ events) := by
  rw [obeys_consult]
  intro reply
  refine ⟨trivial, fun e failed => ?_, fun b result => ?_⟩
  · have := fails reply e failed
    rwa [← List.append_assoc] at this
  · have := goes reply b result
    rwa [← List.append_assoc] at this

end Record

/-- A step from a state in which a program obeys is allowed, and leaves a program
that obeys. -/
theorem Obeys.step {ends : σ → Except Error α → Prop} {p q : Program α} {event : Event} {s : σ}
    (h : Obeys d ends p s) (step : Step session p event q) :
    d.allows s event ∧ Obeys d ends q (d.after s event) := by
  cases step with
  | take purpose next number => exact h _ rfl
  | look next cancelled => exact h cancelled
  | send statement next reply => exact h reply

theorem Obeys.steps {ends : σ → Except Error α → Prop} {p q : Program α} {events : List Event}
    {s : σ} (h : Obeys d ends p s) (steps : Steps session p events q) :
    Obeys d ends q (d.afterAll s events) := by
  induction steps generalizing s with
  | none p => exact h
  | step step _ ih => exact ih (h.step step).2

end Program

end ChartQuery
