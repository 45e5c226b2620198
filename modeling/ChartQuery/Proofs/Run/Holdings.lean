import ChartQuery.Proofs.Run.Stages

/-!
# Tables that a run holds

A run may create only tables that it has taken, each of them once, and with its
cleanup it drops all that it holds, the last one first. `Holdings` keeps the
books. `Holdings.working` is the discipline of the run by itself, which drops
nothing, and `Holdings.tidy` is that of the run with its cleanup, which ends
with nothing held.

Main statements: `steps_working` and `prepare_tidy`.
-/

namespace ChartQuery

open Program Event

structure Holdings where
  /-- Tables that are taken and not created yet. -/
  blank : List TempTable := []
  /-- Tables that are taken and not dropped yet, the last one first. -/
  held : List TempTable := []

namespace Holdings

/-- Once a table is dropped nothing is created any more. -/
def after (s : Holdings) : Event → Holdings
  | .take table => ⟨table :: s.blank, table :: s.held⟩
  | .send (.create name _) _ => ⟨s.blank.filter (·.name != name), s.held⟩
  | .send (.drop _) _ => ⟨[], s.held.tail⟩
  | _ => s

theorem blank_after (s : Holdings) (event : Event) :
    (s.after event).blank ⊆ s.blank ++ taken [event] := by
  cases event with
  | take table => simp [after]
  | look cancelled => simp [after]
  | send statement reply =>
    cases statement with
    | create name query =>
      exact List.Subset.trans List.filter_sublist.subset (List.subset_append_left ..)
    | describe reference => simp [after]
    | select query => simp [after]
    | drop name => simp [after]

theorem held_sub_after (s : Holdings) (event : Event) :
    (s.after event).held ⊆ s.held ++ taken [event] := by
  cases event with
  | take table => simp [after]
  | look cancelled => simp [after]
  | send statement reply =>
    cases statement with
    | drop name =>
      exact List.Subset.trans (List.tail_sublist _).subset (List.subset_append_left ..)
    | create name query => simp [after]
    | describe reference => simp [after]
    | select query => simp [after]

theorem blank_after_held {s : Holdings} (h : s.blank ⊆ s.held) (event : Event) :
    (s.after event).blank ⊆ (s.after event).held := by
  cases event with
  | take table => exact List.cons_subset_cons table h
  | look cancelled => exact h
  | send statement reply =>
    cases statement with
    | create name query => exact List.Subset.trans List.filter_sublist.subset h
    | describe reference => exact h
    | select query => exact h
    | drop name => exact List.nil_subset _

def working : Discipline Holdings where
  allows s
    | .take table => ∀ other ∈ s.held, other.purpose ≠ table.purpose
    | .look _ => True
    | .send (.create name _) _ => ∃ table ∈ s.blank, table.name = name
    | .send (.describe _) _ => True
    | .send (.select query) _ => "SELECT ".toList <+: query.toList
    | .send (.drop _) _ => False
  after := after

def tidy : Discipline Holdings where
  allows s
    | .send (.create name _) _ => ∃ table ∈ s.blank, table.name = name
    | .send (.drop name) _ => ∃ table rest, s.held = table :: rest ∧ table.name = name
    | _ => True
  after := after

theorem blank_held (events : List Event) {s : Holdings} (h : s.blank ⊆ s.held) :
    (tidy.afterAll s events).blank ⊆ (tidy.afterAll s events).held := by
  induction events generalizing s with
  | nil => exact h
  | cons event events ih => exact ih (blank_after_held h event)

theorem held_taken (events : List Event) {s : Holdings} {table : TempTable}
    (held : table ∈ (tidy.afterAll s events).held) : table ∈ s.held ++ taken events := by
  induction events generalizing s with
  | nil => simpa [Discipline.afterAll] using held
  | cons event events ih =>
    rw [taken_cons, ← List.append_assoc]
    rcases List.mem_append.1 (ih held) with held | took
    · have := held_sub_after s event held
      rw [taken_cons, taken_nil, List.append_nil] at this
      exact List.mem_append_left _ this
    · exact List.mem_append_right _ took

section Stages

variable {names : TypeNames} {request : Request} {mark : Mark}

/-- Before the source is open only the table of the pre-query is taken. -/
theorem openSource_working :
    Obeys working (fun s _ => ∀ table ∈ s.held, table.purpose = .preQuery)
      request.openSource {} := by
  rw [Request.openSource_eq]
  split
  · intro table held
    cases held
  · rw [obeys_temp]
    intro table purpose
    have only : ∀ other ∈ [table], other.purpose = .preQuery := by simpa using purpose
    constructor
    · simp [working]
    rw [obeys_checkpoint]
    refine ⟨⟨trivial, only⟩, trivial, ?_⟩
    rw [obeys_consult]
    intro reply
    have blank : table ∈ ((working.after {} (.take table)).after (.look false)).blank := by
      simp [working, after]
    exact ⟨⟨table, blank, rfl⟩, fun _ _ => only, fun _ _ => only⟩

theorem reshaping_working (source : String) {s : Holdings}
    (only : ∀ table ∈ s.held, table.purpose = .preQuery) :
    Obeys working (fun _ _ => True) (request.reshaping mark source) s := by
  unfold Request.reshaping
  rw [obeys_checkpoint]
  refine ⟨⟨trivial, trivial⟩, trivial, ?_⟩
  rw [obeys_consult]
  intro described
  refine ⟨trivial, fun _ _ => trivial, fun _ _ => ?_⟩
  rw [obeys_temp]
  intro table purpose
  constructor
  · intro other mem
    rw [only other mem, purpose]
    decide
  rw [obeys_checkpoint]
  refine ⟨⟨trivial, trivial⟩, trivial, ?_⟩
  have blank : table ∈ ((working.after s (.take table)).after (.look false)).blank := by
    simp [working, after]
  rw [obeys_consult]
  intro made
  refine ⟨⟨table, blank, rfl⟩, fun _ _ => trivial, fun _ _ => ?_⟩
  rw [obeys_checkpoint]
  refine ⟨⟨trivial, trivial⟩, trivial, ?_⟩
  rw [obeys_consult]
  exact fun reply => ⟨trivial, fun _ _ => trivial, fun _ _ => trivial⟩

theorem isDistinct_working (schema : Schema) (table : String) (s : Holdings) :
    Obeys working (fun _ _ => True) (isDistinct mark schema table) s := by
  rw [isDistinct_eq]
  split
  · trivial
  · rename_i query text
    refine fun reply => ⟨?_, trivial⟩
    unfold Probe.sql? at text
    split at text
    · cases text
    · simp [working, ← Option.some.inj text]

theorem finalText_begins (schema : Schema) (table : String) (aggregate : Option Aggregate) :
    "SELECT ".toList <+: (Request.finalText mark schema table aggregate).toList := by
  cases aggregate <;> simp [Request.finalText, Select.body]

theorem finishing_working (preQuery : Option String) (table : Request.Reshaped) (s : Holdings) :
    Obeys working (fun _ _ => True) (request.finishing names mark preQuery table) s := by
  unfold Request.finishing
  rw [obeys_checkpoint]
  refine ⟨⟨trivial, trivial⟩, trivial, ?_⟩
  apply (isDistinct_working table.schema table.reference _).bind
  · intros
    trivial
  · intro s distinct _
    rw [obeys_checkpoint]
    refine ⟨⟨trivial, trivial⟩, trivial, ?_⟩
    rw [obeys_consult]
    exact fun reply => ⟨finalText_begins .., fun _ _ => trivial, fun data _ => trivial⟩

/-- A run without its cleanup works with its own tables only. -/
theorem steps_working : Obeys working (fun _ _ => True) (request.steps names mark) {} := by
  rw [Request.steps_eq]
  apply openSource_working.bind
  · intros
    trivial
  intro s opened only
  apply (reshaping_working opened.1 only).bind
  · intros
    trivial
  intro s table _
  exact finishing_working opened.2 table s

end Stages

section Cleanup

variable {α : Type}

theorem dropEach_tidy (result : Except Error α) (held : List TempTable) {s : Holdings}
    (same : s.held = held) :
    Obeys tidy (fun s _ => s.held = []) ((dropEach held).bind fun _ => done result) s := by
  induction held generalizing s with
  | nil => exact same
  | cons table held ih =>
    exact fun reply => ⟨⟨table, held, same, rfl⟩, ih (by simp [tidy, after, same])⟩

/-- The cleanup drops what a working program holds. -/
theorem withCleanup_tidy {p : Program α} {s : Holdings}
    (h : Obeys working (fun _ _ => True) p s) :
    Obeys tidy (fun s _ => s.held = []) (p.withCleanup s.held) s := by
  induction p generalizing s with
  | done result => exact dropEach_tidy result s.held rfl
  | allocate purpose next ih =>
    intro table same
    exact ⟨trivial, ih table (h table same).2⟩
  | poll next ih => exact fun cancelled => ⟨trivial, ih cancelled (h cancelled).2⟩
  | submit statement next ih =>
    intro reply
    obtain ⟨allowed, rest⟩ := h reply
    cases statement with
    | create name query => exact ⟨allowed, ih reply rest⟩
    | describe reference => exact ⟨trivial, ih reply rest⟩
    | select query => exact ⟨trivial, ih reply rest⟩
    | drop name => exact allowed.elim

/-- A run creates and drops tables that it holds only, and ends with none. -/
theorem prepare_tidy (names : TypeNames) (request : Request) :
    Obeys tidy (fun s _ => s.held = []) (request.prepare names) {} := by
  unfold Request.prepare
  split
  · rfl
  · exact withCleanup_tidy steps_working

end Cleanup

end Holdings

end ChartQuery
