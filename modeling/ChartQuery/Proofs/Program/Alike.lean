import ChartQuery.Proofs.Program.Behaviour
import ChartQuery.Proofs.Sql.Template

/-!
# Programs up to the names of temporary tables

Two programs are alike if they take tables for the same purposes, look at the
same points, send statements that are the same up to the names of their tables,
and go on alike after replies that are. `Program.Alike` is defined by recursion on
the first program, and a program is compared part by part (`alike_bind`).
-/

namespace ChartQuery.Program

variable {α β γ δ : Type} {tables tables' : Tables}

/-- Programs that differ in the names of their tables only. -/
def Alike (tables tables' : Tables) (values : α → β → Prop) : Program α → Program β → Prop
  | done result, done result' => ResultsAlike tables tables' values result result'
  | allocate purpose next, allocate purpose' next' => purpose' = purpose ∧
      Alike tables tables' values (next (tables purpose)) (next' (tables' purpose))
  | poll next, poll next' => ∀ cancelled,
      Alike tables tables' values (next cancelled) (next' cancelled)
  | submit statement next, submit statement' next' =>
      statement.Alike tables tables' statement' ∧ ∀ reply reply',
        Reply.Alike tables tables' reply reply' →
          Alike tables tables' values (next reply) (next' reply')
  | _, _ => False

variable {values : α → β → Prop} {values' : γ → δ → Prop}

theorem alike_bind {p : Program α} {p' : Program β} {f : α → Program γ} {f' : β → Program δ}
    (h : Alike tables tables' values p p')
    (rest : ∀ a b, values a b → Alike tables tables' values' (f a) (f' b)) :
    Alike tables tables' values' (p.bind f) (p'.bind f') := by
  induction p generalizing p' with
  | done result =>
    cases p' with
    | done result' =>
      cases result <;> cases result'
      · exact h
      · exact h.elim
      · exact h.elim
      · exact rest _ _ h
    | _ => exact h.elim
  | allocate purpose next ih =>
    cases p' with
    | allocate purpose' next' => exact ⟨h.1, ih _ h.2⟩
    | _ => exact h.elim
  | poll next ih =>
    cases p' with
    | poll next' => exact fun cancelled => ih cancelled (h cancelled)
    | _ => exact h.elim
  | submit statement next ih =>
    cases p' with
    | submit statement' next' =>
      exact ⟨h.1, fun reply reply' alike => ih reply (h.2 reply reply' alike)⟩
    | _ => exact h.elim

theorem alike_temp (purpose : TempPurpose) {f : TempTable → Program α} {f' : TempTable → Program β}
    (h : Alike tables tables' values (f (tables purpose)) (f' (tables' purpose))) :
    Alike tables tables' values ((temp purpose).bind f) ((temp purpose).bind f') :=
  ⟨rfl, h⟩

theorem alike_checkpoint {f : Unit → Program α} {f' : Unit → Program β}
    (h : Alike tables tables' values (f ()) (f' ())) :
    Alike tables tables' values (checkpoint.bind f) (checkpoint.bind f') := by
  rintro (_ | _)
  · exact h
  · exact Error.Alike.refl .cancelled

theorem alike_consult {statement statement' : Statement} {read : Frame → Except Error α}
    {read' : Frame → Except Error β} (sent : statement.Alike tables tables' statement')
    (h : ∀ frame, ResultsAlike tables tables' values (read frame) (read' frame)) :
    Alike tables tables' values (consult statement read) (consult statement' read') := by
  refine ⟨sent, fun reply reply' alike => ?_⟩
  cases reply <;> cases reply'
  · exact alike
  · exact alike.elim
  · exact alike.elim
  · cases alike
    exact h _

theorem alike_consult_same {statement statement' : Statement} (read : Frame → Except Error α)
    (sent : statement.Alike tables tables' statement') :
    Alike tables tables' Eq (consult statement read) (consult statement' read) := by
  refine alike_consult sent fun frame => ?_
  cases read frame with
  | ok a => rfl
  | error e => exact Error.Alike.refl e

end ChartQuery.Program
