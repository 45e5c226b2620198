import ChartQuery.Proofs.Program.Behaviour
import ChartQuery.Proofs.TableNames
import ChartQuery.Run.Scope
import Mathlib.Data.List.Forall2
import Mathlib.Data.List.Nodup

/-!
# Scopes

The operations of a scope fall into rounds, each up to a cleanup, and the last one up to the
end of the scope. In a round the scope takes a table for each allocation and sends nothing, and
its cleanup drops exactly these tables, the last one first. A cleanup leaves the scope as it was
at the beginning, whatever has become of the drops, so that the next round begins anew. So every
table that is taken is dropped once.

Main statement: `scope_drops_each_table_once`.
-/

namespace ChartQuery

open Program Event

namespace Scope

/-- What happens in a round of a scope: in its operations, and in the cleanup. -/
structure Work where
  takes : List Event
  drops : List Event

def Work.events (work : Work) : List Event := work.takes ++ work.drops

def Step.purpose? : Step → Option TempPurpose
  | allocate purpose => some purpose
  | _ => none

/-- What a scope does from one cleanup to the next. -/
structure Round (session : String) (operations : List Step) (work : Work) : Prop where
  /-- The tables are held up to the cleanup, and none of them behind it. -/
  held : ∃ full empty : Scope,
    Steps session (performAll {} operations) work.takes (done (.ok full)) ∧
      full.names = (taken work.takes).map TempTable.name ∧
      Steps session full.cleanup work.drops (done (.ok empty)) ∧ empty.names = []
  /-- A table is taken for each allocation. -/
  purposes : (taken work.takes).map TempTable.purpose = operations.filterMap Step.purpose?
  quiet : sent work.takes = []
  reversed : sent work.drops = (taken work.takes).reverse.map fun table => .drop table.name
  /-- A cleanup takes no table. -/
  idle : taken work.drops = []

variable {session : String} {operations : List Step} {events : List Event} {scope : Scope}

theorem performAll_append (scope : Scope) (first last : List Step) :
    performAll scope (first ++ last) =
      (performAll scope first).bind fun scope => performAll scope last := by
  induction first generalizing scope with
  | nil => rfl
  | cons step first ih =>
    have split (rest : List Step) : performAll scope (step :: rest) =
        (scope.perform step).bind fun scope => performAll scope rest := rfl
    rw [List.cons_append, split, split, bind_assoc]
    congr
    funext scope
    exact ih scope

theorem steps_cleanup {result : Except Error Scope}
    (h : Steps session scope.cleanup events (done result)) :
    result = .ok {} ∧ (∀ event ∈ events, event.isDrop) ∧
      sent events = scope.held.map fun table => .drop table.name :=
  steps_dropEach h

/-- Without a cleanup a scope takes tables and sends nothing. -/
theorem steps_performAll {result : Except Error Scope} (calm : .cleanup ∉ operations)
    (h : Steps session (performAll scope operations) events (done result)) :
    ∃ full : Scope, result = .ok full ∧ full.held = (taken events).reverse ++ scope.held ∧
      (taken events).map TempTable.purpose = operations.filterMap Step.purpose? ∧
      sent events = [] := by
  induction operations generalizing scope events with
  | nil =>
    obtain ⟨rfl, same⟩ := steps_done h
    cases same
    exact ⟨scope, rfl, rfl, rfl, rfl⟩
  | cons step operations ih =>
    rw [List.mem_cons, not_or] at calm
    cases step with
    | allocate purpose =>
      obtain ⟨number, rest, rfl, steps⟩ := steps_allocate h
      obtain ⟨full, same, held, purposes, quiet⟩ := ih calm.2 steps
      refine ⟨full, same, ?_, ?_, ?_⟩
      · simp [held]
      · simp [purposes, Step.purpose?]
      · simp [quiet]
    | look => exact ih calm.2 h
    | cleanup => exact absurd rfl calm.1

/-- The first round of a scope, and what comes behind its cleanup. -/
theorem steps_round {next : Scope → Program Unit} {result : Except Error Unit}
    (calm : .cleanup ∉ operations)
    (h : Steps session ((performAll {} operations).bind fun full => full.cleanup.bind next) events
      (done result)) :
    ∃ work rest, events = work.events ++ rest ∧ Round session operations work ∧
      Steps session (next {}) rest (done result) := by
  obtain ⟨e, -, fails⟩ | ⟨full, takes, behind, rfl, work, steps⟩ := steps_bind h
  · obtain ⟨_, same, -⟩ := steps_performAll calm fails
    cases same
  obtain ⟨_, same, held, purposes, quiet⟩ := steps_performAll calm work
  cases same
  rw [List.append_nil] at held
  obtain ⟨e, -, fails⟩ | ⟨empty, drops, rest, rfl, cleanup, steps⟩ := steps_bind steps
  · cases (steps_cleanup fails).1
  obtain ⟨same, only, dropped⟩ := steps_cleanup cleanup
  cases same
  refine ⟨⟨takes, drops⟩, rest, (List.append_assoc ..).symm, ⟨⟨full, {}, work, ?_, cleanup, rfl⟩,
    purposes, quiet, ?_, taken_of_drops only⟩, steps⟩
  · rw [names, held, List.reverse_reverse]
  · rw [dropped, held]

/-- What a scope does from a state on up to its end. -/
def toEnd (scope : Scope) (operations : List Step) : Program Unit :=
  (performAll scope operations).bind fun full => full.cleanup.bind fun _ => done (.ok ())

theorem lifetime_append (front rest : List Step) :
    lifetime (front ++ .cleanup :: rest) =
      (performAll {} front).bind fun full => full.cleanup.bind fun empty => toEnd empty rest := by
  change toEnd {} (front ++ .cleanup :: rest) = _
  rw [toEnd, performAll_append, bind_assoc]
  congr
  funext full
  exact bind_assoc ..

/-- The life of a scope consists of its rounds. -/
theorem steps_lifetime {result : Except Error Unit}
    (h : Steps session (lifetime operations) events (done result)) :
    result = .ok () ∧ ∃ works, List.Forall₂ (Round session) (operations.splitOn .cleanup) works ∧
      events = works.flatMap Work.events := by
  induction size : operations.length using Nat.strongRecOn generalizing operations events with
  | ind n ih =>
    by_cases mem : Step.cleanup ∈ operations
    · obtain ⟨front, rest, rfl, calm⟩ := List.eq_append_cons_of_mem mem
      rw [lifetime_append] at h
      obtain ⟨work, behind, rfl, round, steps⟩ := steps_round calm h
      rw [List.length_append, List.length_cons] at size
      obtain ⟨same, works, rounds, rfl⟩ := ih _ (by omega) steps rfl
      rw [List.splitOn_append_cons_self_of_not_mem calm]
      exact ⟨same, work :: works, .cons round rounds, rfl⟩
    · obtain ⟨work, behind, rfl, round, steps⟩ := steps_round mem h
      obtain ⟨rfl, same⟩ := steps_done steps
      cases same
      rw [List.splitOn_eq_singleton mem]
      exact ⟨rfl, [work], .cons round .nil, by simp⟩

/-- In rounds the tables that are dropped are those that are taken. -/
theorem Round.sent_perm {parts : List (List Step)} {works : List Work}
    (rounds : List.Forall₂ (Round session) parts works) :
    (sent (works.flatMap Work.events)).Perm
      ((taken (works.flatMap Work.events)).map fun table => .drop table.name) := by
  induction rounds with
  | nil => rfl
  | @cons part work parts works round _ ih =>
    simp only [List.flatMap_cons, Work.events, sent_append, taken_append, round.quiet,
      round.reversed, round.idle, List.nil_append, List.append_nil, List.map_append,
      List.map_reverse]
    exact (List.reverse_perm _).append ih

theorem drops_nodup {α : Type} {p q : Program α} (steps : Steps session p events q)
    (distinct : (taken events).Nodup) :
    ((taken events).map fun table => Statement.drop table.name).Nodup := by
  refine List.Nodup.map_on ?_ distinct
  intro table mem other mem' same
  refine TempTable.name_injective ?_ (Statement.drop.inj same)
  rw [steps.session_eq mem, steps.session_eq mem']

end Scope

open Scope

/-- Whatever the engine replies, a scope comes to its end without an error, and the tables that
it takes are distinct. Its life consists of rounds, one for each cleanup and one for its end.
In each round the tables are held in the order of their allocation, and then dropped in reverse
order, and no name is left. So in the whole a drop is sent for each table that is taken, once
and for no other one, and with distinct tables no drop is sent twice. -/
theorem scope_drops_each_table_once (operations : List Scope.Step) :
    (∀ (setting : Setting) (start : Position),
      let outcome := (lifetime operations).run setting start
      outcome.result = .ok () ∧ ∃ events, (taken events).Nodup ∧
        Steps setting.session (lifetime operations) events (done outcome.result) ∧
        sent events = outcome.statements) ∧
    ∀ (session : String) (events : List Event) (result : Except Error Unit),
      Steps session (lifetime operations) events (done result) → result = .ok () ∧
      (∃ works, List.Forall₂ (Round session) (operations.splitOn .cleanup) works ∧
        events = works.flatMap Work.events) ∧
      (sent events).Perm ((taken events).map fun table => .drop table.name) ∧
      ((taken events).Nodup → (sent events).Nodup) := by
  constructor
  · intro setting start
    obtain ⟨events, steps, log, -, numbers⟩ :=
      steps_run_numbered setting (lifetime operations) start
    refine ⟨(steps_lifetime steps).1, events, ?_, steps, by rw [sent, log]; rfl⟩
    have distinct : ((taken events).map TempTable.number).Nodup := by
      rw [numbers]
      exact List.nodup_range'
    exact distinct.of_map
  · intro session events result steps
    obtain ⟨same, works, rounds, rfl⟩ := steps_lifetime steps
    have perm := Round.sent_perm rounds
    refine ⟨same, ⟨works, rounds, rfl⟩, perm, fun distinct => ?_⟩
    exact perm.nodup_iff.2 (drops_nodup steps distinct)

/-- A scope that is cleaned up while it holds two tables, and ends with a third one. -/
def threeTables : List Scope.Step :=
  [.allocate .preQuery, .allocate .reshape, .look, .cleanup, .allocate .reshape]

/-- The first drop is refused, and other scopes take tables in between. -/
def refusedDrop : List Event :=
  [.take ⟨.preQuery, "s", 7⟩, .take ⟨.reshape, "s", 9⟩,
    .send (.drop (TempTable.name ⟨.reshape, "s", 9⟩)) (.error (.engine "busy")),
    .send (.drop (TempTable.name ⟨.preQuery, "s", 7⟩)) (.ok .empty),
    .take ⟨.reshape, "s", 12⟩, .send (.drop (TempTable.name ⟨.reshape, "s", 12⟩)) (.ok .empty)]

theorem steps_refusedDrop :
    Steps "s" (lifetime threeTables) refusedDrop (done (.ok ())) :=
  .step (.take ..) <| .step (.take ..) <| .step (.send ..) <| .step (.send ..) <|
    .step (.take ..) <| .step (.send ..) <| .none _

theorem refusedDrop_drops_each_table_once :
    Steps "s" (lifetime threeTables) refusedDrop (done (.ok ())) ∧
      (sent refusedDrop).Perm [.drop (TempTable.name ⟨.preQuery, "s", 7⟩),
        .drop (TempTable.name ⟨.reshape, "s", 9⟩), .drop (TempTable.name ⟨.reshape, "s", 12⟩)] ∧
      (sent refusedDrop).Nodup := by
  obtain ⟨-, ends⟩ := scope_drops_each_table_once threeTables
  obtain ⟨-, -, perm, distinct⟩ := ends "s" refusedDrop (.ok ()) steps_refusedDrop
  exact ⟨steps_refusedDrop, perm, distinct (by decide)⟩

end ChartQuery
