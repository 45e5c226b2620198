import ChartQuery.Proofs.Run.Holdings
import ChartQuery.Proofs.TableNames
import Mathlib.Algebra.Group.Nat.Defs
import Mathlib.Data.List.Nodup
import Mathlib.Data.Set.Insert
import Mathlib.Logic.Function.Basic

/-!
# Runs in one process

The runs of a process take their turns in any order. They share its session and
its counter, which numbers their tables and starts again after 64 bits, and the
tables of one engine. A run by itself cannot tell that there are others
(`Steps.of_run`), and as long as the counter has not come round, no name is
taken twice (`taken_nodup`).
-/

namespace ChartQuery

open Program Event

/-- What a statement may do to the tables of an engine. A table is created unless
there is one of its name already, and any statement may be refused. -/
inductive Answers : Set String → Statement → Reply → Set String → Prop where
  | created {tables : Set String} {name : String} (query : String) (frame : Frame) :
    name ∉ tables → Answers tables (.create name query) (.ok frame) (insert name tables)
  | dropped (tables : Set String) (name : String) (frame : Frame) :
    Answers tables (.drop name) (.ok frame) (tables \ {name})
  | described (tables : Set String) (reference : String) (frame : Frame) :
    Answers tables (.describe reference) (.ok frame) tables
  | selected (tables : Set String) (query : String) (frame : Frame) :
    Answers tables (.select query) (.ok frame) tables
  | refused (tables : Set String) (statement : Statement) (e : Error) :
    Answers tables statement (.error e) tables

/-- The runs of a process, the number of its next table, and the tables of the
engine. -/
structure Process (ι : Type) where
  runs : ι → Program Prepared
  counter : UInt64
  tables : Set String

namespace Process

variable {ι : Type}

/-- The tables that are taken in a trace, with the runs that take them. -/
def taken (trace : List (ι × Event)) : List (ι × TempTable) :=
  trace.filterMap fun (i, event) => event.table?.map fun table => (i, table)

@[simp] theorem taken_nil : taken ([] : List (ι × Event)) = [] := rfl

theorem taken_cons (i : ι) (event : Event) (trace : List (ι × Event)) :
    taken ((i, event) :: trace) =
      (event.table?.map fun table => (i, table)).toList ++ taken trace := by
  cases event <;> rfl

@[simp] theorem taken_append (first last : List (ι × Event)) :
    taken (first ++ last) = taken first ++ taken last := List.filterMap_append

theorem taken_sub (trace : List (ι × Event)) (last : ι × Event) :
    taken trace ⊆ taken (trace ++ [last]) := by
  rw [taken_append]
  exact List.subset_append_left ..

def DropsSucceed (trace : List (ι × Event)) : Prop :=
  ∀ i name e, (i, .send (.drop name) (.error e)) ∉ trace

theorem DropsSucceed.before {trace : List (ι × Event)} {last : ι × Event}
    (h : DropsSucceed (trace ++ [last])) : DropsSucceed trace := by
  intro i name e mem
  exact h i name e (List.mem_append_left _ mem)

def numberAfter (start : Process ι) (count : Nat) : Nat :=
  (start.counter + UInt64.ofNat count).toNat

theorem numberAfter_injective {start : Process ι} {first second : Nat}
    (h : first < 2 ^ 64) (k : second < 2 ^ 64)
    (same : start.numberAfter first = start.numberAfter second) : first = second := by
  simp only [numberAfter, UInt64.toNat_add, UInt64.toNat_ofNat'] at same
  omega

variable [DecidableEq ι]

inductive Step (session : String) : Process ι → ι × Event → Process ι → Prop where
  | take {s : Process ι} {i : ι} {p : Program Prepared} {table : TempTable} :
    Program.Step session (s.runs i) (.take table) p → table.number = s.counter.toNat →
    Step session s (i, .take table)
      { s with runs := Function.update s.runs i p, counter := s.counter + 1 }
  | look {s : Process ι} {i : ι} {p : Program Prepared} {cancelled : Bool} :
    Program.Step session (s.runs i) (.look cancelled) p →
    Step session s (i, .look cancelled) { s with runs := Function.update s.runs i p }
  | send {s : Process ι} {i : ι} {p : Program Prepared} {statement : Statement} {reply : Reply}
    {tables : Set String} :
    Program.Step session (s.runs i) (.send statement reply) p →
    Answers s.tables statement reply tables →
    Step session s (i, .send statement reply) { s with runs := Function.update s.runs i p, tables }

inductive Steps (session : String) (start : Process ι) :
    List (ι × Event) → Process ι → Prop where
  | none : Steps session start [] start
  | step {trace : List (ι × Event)} {s t : Process ι} {event : ι × Event} :
    Steps session start trace s → Step session s event t →
    Steps session start (trace ++ [event]) t

/-- What one of the runs does in a trace. -/
def eventsOf (i : ι) (trace : List (ι × Event)) : List Event :=
  trace.filterMap fun (j, event) => if j = i then some event else none

variable {session : String} {start s t : Process ι} {trace : List (ι × Event)} {i j : ι}

theorem eventsOf_cons (event : Event) :
    eventsOf i ((j, event) :: trace) = (if j = i then [event] else []) ++ eventsOf i trace := by
  by_cases same : j = i <;> simp [eventsOf, same]

theorem eventsOf_same (event : Event) :
    eventsOf i (trace ++ [(i, event)]) = eventsOf i trace ++ [event] := by
  simp [eventsOf]

theorem eventsOf_other (event : Event) (other : i ≠ j) :
    eventsOf j (trace ++ [(i, event)]) = eventsOf j trace := by
  simp [eventsOf, other]

theorem mem_taken {table : TempTable} :
    (i, table) ∈ taken trace ↔ table ∈ Event.taken (eventsOf i trace) := by
  induction trace with
  | nil => simp [taken, eventsOf]
  | cons head trace ih =>
    obtain ⟨j, event⟩ := head
    rw [eventsOf_cons, taken_cons, Event.taken_append, List.mem_append, List.mem_append, ih]
    refine or_congr_left ?_
    by_cases same : j = i <;> simp [same]

theorem Step.of_run {event : Event} (step : Step session s (i, event) t) :
    ∃ p, Program.Step session (s.runs i) event p ∧ t.runs = Function.update s.runs i p := by
  cases step with
  | take step number => exact ⟨_, step, rfl⟩
  | look step => exact ⟨_, step, rfl⟩
  | send step answers => exact ⟨_, step, rfl⟩

/-- What a run does among others it can do by itself. -/
theorem Steps.of_run (steps : Steps session start trace s) (i : ι) :
    Program.Steps session (start.runs i) (eventsOf i trace) (s.runs i) := by
  induction steps with
  | none => exact .none _
  | @step trace s t event _ step ih =>
    obtain ⟨j, event⟩ := event
    obtain ⟨p, step, runs⟩ := step.of_run
    rw [runs]
    by_cases same : j = i
    · subst same
      rw [eventsOf_same, Function.update_self]
      exact ih.append (.step step (.none p))
    · rw [eventsOf_other event same, Function.update_of_ne (Ne.symm same)]
      exact ih

theorem Steps.numbers (steps : Steps session start trace s) :
    s.counter = start.counter + UInt64.ofNat (taken trace).length ∧
      (taken trace).map (fun (_, table) => table.number) =
        (List.range (taken trace).length).map start.numberAfter ∧
      ∀ i table, (i, table) ∈ taken trace → table.session = session := by
  induction steps with
  | none => simp [taken]
  | @step trace s t event _ step ih =>
    obtain ⟨counter, numbers, sessions⟩ := ih
    obtain ⟨i, event⟩ := event
    rw [taken_append, taken_cons]
    cases step with
    | look step => simpa using ⟨counter, numbers, sessions⟩
    | send step answers => simpa using ⟨counter, numbers, sessions⟩
    | @take _ _ table step number =>
      simp only [table?, Option.map_some, Option.toList_some, taken_nil, List.append_nil,
        List.length_append, List.length_singleton, List.map_append, List.range_succ]
      refine ⟨?_, ?_, ?_⟩
      · rw [counter, UInt64.add_assoc, UInt64.ofNat_add]
        rfl
      · rw [numbers, List.map_singleton, List.map_singleton, number, counter]
        rfl
      · intro j other mem
        rcases List.mem_append.1 mem with mem | mem
        · exact sessions j other mem
        · cases List.mem_singleton.1 mem
          exact step.session_eq

/-- As long as the counter has not come round no name is taken twice. -/
theorem Steps.taken_nodup (steps : Steps session start trace s)
    (few : (taken trace).length ≤ 2 ^ 64) :
    ((taken trace).map fun (_, table) => table.name).Nodup := by
  obtain ⟨-, numbers, sessions⟩ := steps.numbers
  have distinct : ((List.range (taken trace).length).map start.numberAfter).Nodup := by
    refine List.Nodup.map_on ?_ List.nodup_range
    intro first mem second mem' same
    rw [List.mem_range] at mem mem'
    exact numberAfter_injective (by omega) (by omega) same
  rw [← numbers] at distinct
  refine List.pairwise_map.2 ((List.pairwise_map.1 distinct).imp_of_mem ?_)
  rintro ⟨i, table⟩ ⟨j, other⟩ mem mem' different same
  have session : table.session = other.session := by
    rw [sessions i table mem, sessions j other mem']
  exact different (congrArg TempTable.number (TempTable.name_injective session same))

theorem Steps.taken_unique (steps : Steps session start trace s)
    (few : (taken trace).length ≤ 2 ^ 64) {table other : TempTable} (h : (i, table) ∈ taken trace)
    (k : (j, other) ∈ taken trace) (same : table.name = other.name) : i = j ∧ table = other := by
  have := List.inj_on_of_nodup_map (steps.taken_nodup few) h k same
  exact Prod.mk.inj this

end Process

end ChartQuery
