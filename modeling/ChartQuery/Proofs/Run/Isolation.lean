import ChartQuery.Proofs.Run.Cleanup
import ChartQuery.Proofs.Run.Process

/-!
# Isolation

However the runs of a process take their turns, none of them touches a table
that another one has taken. The engine has, besides the tables that were there
before, those only that a run has created and not dropped, and a table that is
not created yet is not there. So no creation meets a table of its name, and when
all runs are over, and all drops have succeeded, the engine has the tables that it
had before.

Main statement: `runs_are_isolated`.
-/

namespace ChartQuery

open Program Event

/-- The name of the table that a statement creates or drops. -/
def Statement.target? : Statement → Option String
  | create name _ => some name
  | drop name => some name
  | _ => none

namespace Process

variable {ι : Type} [DecidableEq ι] {requests : ι → Request} {names : ι → TypeNames}
  {session : String} {start s t : Process ι} {trace : List (ι × Event)} {i j : ι} {event : Event}

/-- The books of a run in a trace. -/
def holdings (i : ι) (trace : List (ι × Event)) : Holdings :=
  Holdings.tidy.afterAll {} (eventsOf i trace)

theorem holdings_same :
    holdings i (trace ++ [(i, event)]) = (holdings i trace).after event := by
  rw [holdings, eventsOf_same, Discipline.afterAll, List.foldl_append]
  rfl

theorem holdings_other (other : i ≠ j) : holdings j (trace ++ [(i, event)]) = holdings j trace := by
  rw [holdings, eventsOf_other event other, holdings]

theorem held_taken {table : TempTable} (held : table ∈ (holdings i trace).held) :
    (i, table) ∈ taken trace := by
  rw [mem_taken]
  simpa using Holdings.held_taken (eventsOf i trace) held

theorem blank_taken {table : TempTable} (blank : table ∈ (holdings i trace).blank) :
    (i, table) ∈ taken trace :=
  held_taken (Holdings.blank_held (eventsOf i trace) (List.nil_subset _) blank)

/-- The tables of the engine, next to those that it had before and those of the
runs. -/
structure Isolated (start : Process ι) (trace : List (ι × Event)) (s : Process ι) : Prop where
  kept : start.tables ⊆ s.tables
  known : ∀ name ∈ s.tables,
    name ∈ start.tables ∨ ∃ i table, (i, table) ∈ taken trace ∧ table.name = name
  blank : ∀ i, ∀ table ∈ (holdings i trace).blank, table.name ∉ s.tables
  /-- If no drop is refused, a table that is new is held. -/
  left : DropsSucceed trace → ∀ name ∈ s.tables,
    name ∈ start.tables ∨ ∃ i, ∃ table ∈ (holdings i trace).held, table.name = name

theorem Isolated.quiet (h : Isolated start trace s) (same : t.tables = s.tables)
    (blank : ∀ table ∈ ((holdings i trace).after event).blank,
      table ∈ (holdings i trace).blank ∨ table.name ∉ s.tables)
    (held : (∀ name e, event ≠ .send (.drop name) (.error e)) →
      (holdings i trace).held ⊆ ((holdings i trace).after event).held) :
    Isolated start (trace ++ [(i, event)]) t where
  kept := by
    rw [same]
    exact h.kept
  known := by
    rw [same]
    intro name mem
    rcases h.known name mem with old | ⟨j, table, took, same⟩
    · exact .inl old
    · exact .inr ⟨j, table, taken_sub trace _ took, same⟩
  blank := by
    rw [same]
    intro j table mem
    by_cases other : i = j
    · subst other
      rw [holdings_same] at mem
      rcases blank table mem with old | absent
      · exact h.blank i table old
      · exact absent
    · rw [holdings_other other] at mem
      exact h.blank j table mem
  left := by
    rw [same]
    intro succeed name mem
    rcases h.left succeed.before name mem with old | ⟨j, table, mem, same⟩
    · exact .inl old
    · refine .inr ⟨j, table, ?_, same⟩
      by_cases other : i = j
      · subst other
        rw [holdings_same]
        refine held ?_ mem
        intro name e refused
        exact succeed i name e (by simp [refused])
      · rwa [holdings_other other]

theorem Isolated.fresh (h : Isolated start trace s) {table : TempTable}
    (clean : ∀ name ∈ start.tables, Names.isTemp name = false)
    (distinct : ((taken (trace ++ [(i, .take table)])).map fun (_, table) => table.name).Nodup) :
    table.name ∉ s.tables := by
  intro mem
  rcases h.known table.name mem with old | ⟨j, other, took, same⟩
  · have temp := table.isTemp_name
    rw [clean table.name old] at temp
    cases temp
  · rw [taken_append, List.map_append, List.nodup_append] at distinct
    exact distinct.2.2 other.name (List.mem_map.2 ⟨_, took, rfl⟩) table.name
      (by simp [taken_cons]) same

/-- A run creates a table that is blank in its books. -/
theorem Isolated.created (h : Isolated start trace s) {table : TempTable} {query : String}
    {reply : Reply} (unique : ∀ j other, (j, other) ∈ taken trace → other.name = table.name → j = i)
    (blank : table ∈ (holdings i trace).blank) (made : t.tables = insert table.name s.tables) :
    Isolated start (trace ++ [(i, .send (.create table.name query) reply)]) t where
  kept := by
    rw [made]
    exact h.kept.trans (Set.subset_insert ..)
  known := by
    rw [made]
    intro name mem
    rcases mem with rfl | mem
    · exact .inr ⟨i, table, taken_sub trace _ (blank_taken blank), rfl⟩
    · rcases h.known name mem with old | ⟨j, other, took, same⟩
      · exact .inl old
      · exact .inr ⟨j, other, taken_sub trace _ took, same⟩
  blank := by
    rw [made]
    intro j other mem found
    by_cases same : i = j
    · subst same
      rw [holdings_same] at mem
      obtain ⟨mem, different⟩ := List.mem_filter.1 mem
      rcases found with found | found
      · simp [found] at different
      · exact h.blank i other mem found
    · rw [holdings_other same] at mem
      rcases found with found | found
      · exact same (unique j other (blank_taken mem) found).symm
      · exact h.blank j other mem found
  left := by
    rw [made]
    intro succeed name mem
    have held (j : ι) : (holdings j (trace ++ [(i, .send (.create table.name query) reply)])).held =
        (holdings j trace).held := by
      by_cases same : i = j
      · subst same
        rw [holdings_same]
        rfl
      · rw [holdings_other same]
    simp only [held]
    rcases mem with rfl | mem
    · exact .inr ⟨i, table, Holdings.blank_held _ (List.nil_subset _) blank, rfl⟩
    · exact h.left succeed.before name mem

/-- A run drops the table that it has taken last of those it holds. -/
theorem Isolated.dropped (h : Isolated start trace s) {table : TempTable} {rest : List TempTable}
    {reply : Reply} (clean : ∀ name ∈ start.tables, Names.isTemp name = false)
    (held : (holdings i trace).held = table :: rest) (gone : t.tables = s.tables \ {table.name}) :
    Isolated start (trace ++ [(i, .send (.drop table.name) reply)]) t where
  kept := by
    rw [gone]
    intro name old
    refine ⟨h.kept old, fun same => ?_⟩
    have temp := table.isTemp_name
    rw [← same, clean name old] at temp
    cases temp
  known := by
    rw [gone]
    intro name mem
    rcases h.known name mem.1 with old | ⟨j, other, took, same⟩
    · exact .inl old
    · exact .inr ⟨j, other, taken_sub trace _ took, same⟩
  blank := by
    rw [gone]
    intro j other mem found
    by_cases same : i = j
    · subst same
      rw [holdings_same] at mem
      cases mem
    · rw [holdings_other same] at mem
      exact h.blank j other mem found.1
  left := by
    rw [gone]
    intro succeed name mem
    rcases h.left succeed.before name mem.1 with old | ⟨j, other, found, same⟩
    · exact .inl old
    · refine .inr ⟨j, other, ?_, same⟩
      by_cases own : i = j
      · subst own
        rw [held] at found
        rw [holdings_same]
        rcases List.mem_cons.1 found with rfl | found
        · exact absurd same.symm mem.2
        · simpa [Holdings.after, held] using found
      · rwa [holdings_other own]

theorem Steps.allowed (begins : ∀ i, start.runs i = (requests i).prepare (names i))
    (steps : Steps session start trace s) (step : Step session s (i, event) t) :
    Holdings.tidy.allows (holdings i trace) event := by
  obtain ⟨p, own, -⟩ := step.of_run
  have path := steps.of_run i
  rw [begins i] at path
  exact ((Holdings.prepare_tidy (names i) (requests i)).steps path |>.step own).1

/-- Every step of a run keeps to its own tables. -/
theorem Isolated.step (begins : ∀ i, start.runs i = (requests i).prepare (names i))
    (clean : ∀ name ∈ start.tables, Names.isTemp name = false)
    (steps : Steps session start trace s) (h : Isolated start trace s)
    (step : Step session s (i, event) t)
    (few : (taken (trace ++ [(i, event)])).length ≤ 2 ^ 64) :
    Isolated start (trace ++ [(i, event)]) t := by
  have allowed := steps.allowed begins step
  have before : (taken trace).length ≤ 2 ^ 64 := by
    rw [taken_append, List.length_append] at few
    omega
  have distinct := (steps.step step).taken_nodup few
  cases step with
  | @take _ _ table own number =>
    refine h.quiet rfl ?_ (fun _ => List.subset_cons_self ..)
    intro other mem
    rcases List.mem_cons.1 mem with rfl | mem
    · exact .inr (h.fresh clean distinct)
    · exact .inl mem
  | look own => exact h.quiet rfl (fun table mem => .inl mem) (fun _ => List.Subset.refl _)
  | @send _ _ statement reply tables own answers =>
    cases answers with
    | created query frame absent =>
      obtain ⟨table, blank, rfl⟩ := allowed
      refine h.created ?_ blank rfl
      intro j other took same
      exact (steps.taken_unique before took (blank_taken blank) same).1
    | dropped name frame =>
      obtain ⟨table, rest, held, rfl⟩ := allowed
      exact h.dropped clean held rfl
    | described reference frame =>
      exact h.quiet rfl (fun table mem => .inl mem) (fun _ => List.Subset.refl _)
    | selected query frame =>
      exact h.quiet rfl (fun table mem => .inl mem) (fun _ => List.Subset.refl _)
    | refused statement e =>
      cases statement with
      | create name query =>
        exact h.quiet rfl (fun table mem => .inl (List.mem_filter.1 mem).1)
          (fun _ => List.Subset.refl _)
      | describe reference =>
        exact h.quiet rfl (fun table mem => .inl mem) (fun _ => List.Subset.refl _)
      | select query =>
        exact h.quiet rfl (fun table mem => .inl mem) (fun _ => List.Subset.refl _)
      | drop name =>
        refine h.quiet rfl (fun table mem => by cases mem) ?_
        intro succeeds
        exact absurd rfl (succeeds name e)

theorem Steps.isolated (begins : ∀ i, start.runs i = (requests i).prepare (names i))
    (clean : ∀ name ∈ start.tables, Names.isTemp name = false)
    (steps : Steps session start trace s) (few : (taken trace).length ≤ 2 ^ 64) :
    Isolated start trace s := by
  induction steps with
  | none =>
    refine ⟨fun name mem => mem, fun name mem => .inl mem, ?_, fun _ name mem => .inl mem⟩
    intro i table mem
    cases mem
  | @step trace s t event steps step ih =>
    have before : (taken trace).length ≤ 2 ^ 64 := by
      rw [taken_append, List.length_append] at few
      omega
    exact Isolated.step begins clean steps (ih before) step few

end Process

open Process

/-- Any number of runs in one process, in any order of their steps, with any
replies and cancellations, as long as the counter has not come round: the names
that they take are distinct names of temporary tables. A run creates and drops
only tables that it has taken itself, and that no other run has taken, and it
creates no table that is there already. When all runs are over, and no drop was
refused, the engine has the tables that it had before. -/
theorem runs_are_isolated {ι : Type} [DecidableEq ι] {requests : ι → Request}
    {names : ι → TypeNames} {session : String} {start s : Process ι} {trace : List (ι × Event)}
    (begins : ∀ i, start.runs i = (requests i).prepare (names i))
    (clean : ∀ name ∈ start.tables, Names.isTemp name = false)
    (steps : Process.Steps session start trace s) (few : (Process.taken trace).length ≤ 2 ^ 64) :
    ((Process.taken trace).map fun (_, table) => table.name).Nodup ∧
    (∀ i table, (i, table) ∈ Process.taken trace → Names.isTemp table.name) ∧
    (∀ i statement reply t name, Process.Step session s (i, .send statement reply) t →
      statement.target? = some name →
        (∃ table, (i, table) ∈ Process.taken trace ∧ table.name = name) ∧
        (∀ j table, (j, table) ∈ Process.taken trace → table.name = name → j = i) ∧
        (statement.isDrop = false → name ∉ s.tables)) ∧
    ((∀ i, ∃ result, s.runs i = .done result) → DropsSucceed trace → s.tables = start.tables) := by
  have isolated := steps.isolated begins clean few
  refine ⟨steps.taken_nodup few, fun i table _ => table.isTemp_name, ?_, ?_⟩
  · intro i statement reply t name step target
    have allowed := steps.allowed begins step
    cases statement with
    | create other query =>
      cases target
      obtain ⟨table, blank, rfl⟩ := allowed
      have took := blank_taken blank
      refine ⟨⟨table, took, rfl⟩, ?_, fun _ => isolated.blank i table blank⟩
      intro j other took' same
      exact (steps.taken_unique few took' took same).1
    | drop other =>
      cases target
      obtain ⟨table, rest, held, rfl⟩ := allowed
      have took : (i, table) ∈ Process.taken trace := held_taken (by simp [held])
      refine ⟨⟨table, took, rfl⟩, ?_, fun create => by cases create⟩
      intro j other took' same
      exact (steps.taken_unique few took' took same).1
    | describe reference => cases target
    | select query => cases target
  · intro ended succeed
    refine Set.Subset.antisymm ?_ isolated.kept
    intro name mem
    rcases isolated.left succeed name mem with old | ⟨i, table, held, -⟩
    · exact old
    · obtain ⟨result, done⟩ := ended i
      have path := steps.of_run i
      rw [begins i, done] at path
      have empty : (holdings i trace).held = [] :=
        (Holdings.prepare_tidy (names i) (requests i)).steps path
      rw [empty] at held
      cases held

/-- Two runs of `sales` in turns. Both are cancelled, one before its creation and
one after it. -/
def salesInTurns : List (Bool × Event) :=
  let first : TempTable := ⟨.preQuery, "s", 0⟩
  let second : TempTable := ⟨.preQuery, "s", 1⟩
  let creation := Request.preQueryStatement "SELECT * FROM raw;"
  [(true, .take first), (false, .take second), (true, .look false),
    (true, .send (creation first) (.ok .empty)), (false, .look true),
    (false, .send (.drop second.name) (.ok .empty)), (true, .look true),
    (true, .send (.drop first.name) (.ok .empty))]

def salesBegin : Process Bool where
  runs _ := sales.prepare .duckdb
  counter := 0
  tables := {"raw"}

theorem steps_salesInTurns :
    ∃ s, Process.Steps "s" salesBegin salesInTurns s ∧ ∀ i, ∃ result, s.runs i = .done result := by
  have absent : TempTable.name ⟨.preQuery, "s", 0⟩ ∉ salesBegin.tables := by
    intro mem
    have temp := TempTable.isTemp_name ⟨.preQuery, "s", 0⟩
    rw [Set.mem_singleton_iff.1 mem] at temp
    revert temp
    decide
  refine ⟨_, Process.Steps.none.step (.take (.take ..) rfl) |>.step (.take (.take ..) rfl)
    |>.step (.look (.look ..)) |>.step (.send (.send ..) (.created _ _ absent))
    |>.step (.look (.look ..)) |>.step (.send (.send ..) (.dropped ..))
    |>.step (.look (.look ..)) |>.step (.send (.send ..) (.dropped ..)), ?_⟩
  intro i
  cases i <;> exact ⟨_, rfl⟩

theorem salesInTurns_isolated :
    (∀ name ∈ salesBegin.tables, Names.isTemp name = false) ∧
      (Process.taken salesInTurns).length ≤ 2 ^ 64 ∧
      ∃ s, Process.Steps "s" salesBegin salesInTurns s ∧ s.tables = {"raw"} := by
  have clean : ∀ name ∈ salesBegin.tables, Names.isTemp name = false := by
    intro name mem
    rw [Set.mem_singleton_iff.1 mem]
    decide
  have few : (Process.taken salesInTurns).length ≤ 2 ^ 64 := by decide
  have begins : ∀ i, salesBegin.runs i =
      (Function.const Bool sales i).prepare (Function.const Bool TypeNames.duckdb i) :=
    fun _ => rfl
  obtain ⟨s, steps, ended⟩ := steps_salesInTurns
  obtain ⟨-, -, -, tables⟩ := runs_are_isolated begins clean steps few
  refine ⟨clean, few, s, steps, tables ended ?_⟩
  intro i name e mem
  simp [salesInTurns] at mem

end ChartQuery
