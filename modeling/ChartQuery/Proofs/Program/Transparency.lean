import ChartQuery.Proofs.Program.Behaviour

/-!
# Programs that pass on errors

A program passes on errors if it ends with the error of the first refusal, and does
nothing after it: it neither tries anything else nor words the error anew.

Main statement: `PassesOn.steps_refused`.
-/

namespace ChartQuery.Program

open Event

variable {α β : Type} {session : String}

/-- Whatever a program is refused, it ends at once with the error that it was given. -/
def PassesOn : Program α → Prop
  | done _ => True
  | allocate _ next => ∀ table, PassesOn (next table)
  | poll next => ∀ cancelled, PassesOn (next cancelled)
  | submit _ next =>
    (∀ e, next (.error e) = done (.error e)) ∧ ∀ reply, PassesOn (next reply)

theorem PassesOn.bind {p : Program α} {f : α → Program β} (h : p.PassesOn)
    (next : ∀ a, (f a).PassesOn) : (p.bind f).PassesOn := by
  induction p with
  | done result =>
    cases result with
    | ok a => exact next a
    | error e => trivial
  | allocate purpose rest ih => exact fun table => ih table (h table)
  | poll rest ih => exact fun cancelled => ih cancelled (h cancelled)
  | submit statement rest ih =>
    obtain ⟨refused, later⟩ := h
    refine ⟨fun e => ?_, fun reply => ih reply (later reply)⟩
    change (rest (.error e)).bind f = _
    rw [refused, bind_error]

theorem passesOn_temp (purpose : TempPurpose) : (temp purpose).PassesOn := fun _ => trivial

theorem passesOn_checkpoint : checkpoint.PassesOn := by
  rintro (_ | _)
  · trivial
  · trivial

theorem passesOn_consult (statement : Statement) (read : Frame → Except Error α) :
    (consult statement read).PassesOn :=
  ⟨fun _ => rfl, fun _ => trivial⟩

theorem PassesOn.step {p q : Program α} {event : Event} (h : p.PassesOn)
    (step : Step session p event q) : q.PassesOn := by
  cases step with
  | take purpose next number => exact h _
  | look next cancelled => exact h cancelled
  | send statement next reply => exact h.2 reply

/-- Nothing follows a refusal, and its error is that of the program. -/
theorem PassesOn.steps_refused {p : Program α} {first last : List Event} {statement : Statement}
    {e : Error} {result : Except Error α} (h : p.PassesOn)
    (steps : Steps session p (first ++ .send statement (.error e) :: last) (done result)) :
    last = [] ∧ result = .error e := by
  induction first generalizing p with
  | nil =>
    cases steps with
    | step step rest =>
      cases step with
      | send _ next _ =>
        rw [h.1 e] at rest
        obtain ⟨nothing, same⟩ := steps_done rest
        exact ⟨nothing, done.inj same⟩
  | cons event first ih =>
    cases steps with
    | step step rest => exact ih (h.step step) rest

end ChartQuery.Program
