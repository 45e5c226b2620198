import ChartQuery.Proofs.Data.Fields
import ChartQuery.Proofs.Plan.SourceColumns
import ChartQuery.Proofs.Run.Stages
import Mathlib.Data.List.Basic
import Mathlib.Logic.Basic

/-!
# The check of a source

A source passes the check if each column of each role is one of the columns that its
description names. Otherwise the error lists the columns that it does not name, and a
column is listed once even if several roles share it, in the place where the roles
mention it first.

Main statement: `validateSource_exact`.
-/

namespace ChartQuery

open Program

section FirstOccurrences

variable {α : Type} [BEq α] [LawfulBEq α]

theorem idxOf_lt_of_filter {keeps : α → Bool} {a b : α} (ha : keeps a) (hb : keeps b)
    {l : List α} (h : (l.filter keeps).idxOf a < (l.filter keeps).idxOf b) :
    l.idxOf a < l.idxOf b := by
  induction l with
  | nil => simp at h
  | cons c l ih =>
    by_cases hc : keeps c
    · rw [List.filter_cons_of_pos hc] at h
      by_cases ca : c = a
      · subst ca
        by_cases cb : c = b
        · simp [cb] at h
        · simp [List.idxOf_cons_ne l cb]
      · by_cases cb : c = b
        · simp [cb] at h
        · rw [List.idxOf_cons_ne _ ca, List.idxOf_cons_ne _ cb] at h ⊢
          exact Nat.succ_lt_succ (ih (Nat.lt_of_succ_lt_succ h))
    · have ca : c ≠ a := fun same => hc (same ▸ ha)
      have cb : c ≠ b := fun same => hc (same ▸ hb)
      rw [List.filter_cons_of_neg hc] at h
      rw [List.idxOf_cons_ne _ ca, List.idxOf_cons_ne _ cb]
      exact Nat.succ_lt_succ (ih h)

/-- Without its repetitions, a list is in the order of its first occurrences. -/
theorem pairwise_eraseDups (l : List α) :
    l.eraseDups.Pairwise fun a b => l.idxOf a < l.idxOf b := by
  match l with
  | [] => exact .nil
  | a :: l =>
    have shorter := List.length_filter_le (fun b => !b == a) l
    have rest := pairwise_eraseDups (l.filter fun b => !b == a)
    have other {b : α} (mem : b ∈ (l.filter fun b => !b == a).eraseDups) : b ≠ a := by
      simpa using (List.mem_filter.1 (List.mem_eraseDups.1 mem)).2
    rw [List.eraseDups_cons, List.pairwise_cons]
    constructor
    · intro b mem
      rw [List.idxOf_cons_self, List.idxOf_cons_ne _ (other mem).symm]
      exact Nat.succ_pos _
    · refine rest.imp_of_mem fun {b c} hb hc before => ?_
      rw [List.idxOf_cons_ne _ (other hb).symm, List.idxOf_cons_ne _ (other hc).symm]
      exact Nat.succ_lt_succ (idxOf_lt_of_filter (by simpa using other hb)
        (by simpa using other hc) before)
termination_by l.length

end FirstOccurrences

namespace Encoding

def mentions (encoding : Encoding) : List String :=
  encoding.x ++ encoding.y ++ encoding.series ++ encoding.fx ++ encoding.fy ++ encoding.r ++
    encoding.text

theorem columns_eq_eraseDups (encoding : Encoding) :
    columns encoding = (mentions encoding).eraseDups := by
  simp [columns, mentions, Role.all, PerRole.get]

end Encoding

namespace Schema

/-- The columns that the entries of a description denote, in their order. An entry without
a name denotes none, and one without a type denotes a column of the empty type. -/
inductive Described : List (Option String × Option String) → Schema → Prop where
  | nil : Described [] []
  | unnamed {type : Option String} {entries : List (Option String × Option String)}
      {schema : Schema} : Described entries schema → Described ((none, type) :: entries) schema
  | untyped {name : String} {entries : List (Option String × Option String)} {schema : Schema} :
      Described entries schema → Described ((some name, none) :: entries) (⟨name, ""⟩ :: schema)
  | typed {name type : String} {entries : List (Option String × Option String)}
      {schema : Schema} : Described entries schema →
      Described ((some name, some type) :: entries) (⟨name, type⟩ :: schema)

variable {entries : List (Option String × Option String)} {schema : Schema}

theorem described_ofColumns (entries : List (Option String × Option String)) :
    Described entries (ofColumns (entries.map Prod.fst) (entries.map Prod.snd)) := by
  induction entries with
  | nil => exact .nil
  | cons entry entries ih =>
    obtain ⟨name, type⟩ := entry
    cases name with
    | none => exact .unnamed ih
    | some name =>
      cases type with
      | none => exact .untyped ih
      | some type => exact .typed ih

theorem Described.mem_names (h : Described entries schema) {name : String} :
    name ∈ schema.names ↔ some name ∈ entries.map Prod.fst := by
  induction h with
  | nil => simp [names]
  | unnamed _ ih => simpa [names] using ih
  | untyped _ ih => simpa [names] using or_congr Iff.rfl ih
  | typed _ ih => simpa [names] using or_congr Iff.rfl ih

theorem Described.mem_missing (h : Described entries schema) {columns : List String}
    {name : String} :
    name ∈ schema.missing columns ↔ name ∈ columns ∧ some name ∉ entries.map Prod.fst := by
  rw [← h.mem_names, ← has_eq_true]
  simp [missing]

theorem ofDescription_eq {frame : Frame}
    (names : frame.column? "column_name" =
      some ⟨"column_name", .texts (entries.map Prod.fst)⟩)
    (types : frame.column? "column_type" =
      some ⟨"column_type", .texts (entries.map Prod.snd)⟩) :
    ofDescription frame = .ok (ofColumns (entries.map Prod.fst) (entries.map Prod.snd)) := by
  simp only [ofDescription, textColumn, names, types]
  rfl

end Schema

theorem checkSource_of_ok {reference : String} {encoding : Encoding} {frame : Frame}
    {schema : Schema} (read : Schema.ofDescription frame = .ok schema) :
    checkSource reference encoding frame =
      if (schema.missing (Encoding.columns encoding)).isEmpty then .ok schema
      else .error (.schema reference (schema.missing (Encoding.columns encoding))) := by
  rw [checkSource, read]
  rfl

open Schema in
/-- The check of a source sends one statement, and if that is answered with a description,
it succeeds with the columns described just when each column of each role is one of their
names. Otherwise it fails for that source, and the error lists the columns of the roles that
are not described, and nothing else, in the order in which the roles mention them first. -/
theorem validateSource_exact (reference : String) (encoding : Encoding) (setting : Setting)
    (position : Position) (entries : List (Option String × Option String)) {frame : Frame}
    (replied : setting.reply position (.describe reference) = .ok frame)
    (names : frame.column? "column_name" = some ⟨"column_name", .texts (entries.map Prod.fst)⟩)
    (types : frame.column? "column_type" =
      some ⟨"column_type", .texts (entries.map Prod.snd)⟩) :
    let outcome := (validateSource reference encoding).run setting position
    let isDescribed (name : String) := some name ∈ entries.map Prod.fst
    let passes := ∀ role, ∀ name ∈ encoding.get role, isDescribed name
    outcome.statements = [.describe reference] ∧
    (∃ schema, Described entries schema ∧ (outcome.result = .ok schema ↔ passes)) ∧
    (¬passes → ∃ missing, outcome.result = .error (.schema reference missing) ∧
      (∀ name, name ∈ missing ↔ (∃ role, name ∈ encoding.get role) ∧ ¬isDescribed name) ∧
      missing.Pairwise fun a b =>
        (Encoding.mentions encoding).idxOf a < (Encoding.mentions encoding).idxOf b) := by
  intro outcome isDescribed passes
  have described := described_ofColumns entries
  have read := ofDescription_eq names types
  generalize ofColumns (entries.map Prod.fst) (entries.map Prod.snd) = schema at described read
  have mem_missing (name : String) : name ∈ schema.missing (Encoding.columns encoding) ↔
      (∃ role, name ∈ encoding.get role) ∧ ¬isDescribed name := by
    rw [described.mem_missing, Encoding.mem_columns]
  have none_iff : (schema.missing (Encoding.columns encoding)).isEmpty ↔ passes := by
    rw [List.isEmpty_iff, List.eq_nil_iff_forall_not_mem]
    simp only [mem_missing, not_and, not_not, forall_exists_index]
    exact forall_comm
  have result : outcome.result = checkSource reference encoding frame := by
    simp only [outcome, validateSource_eq, consult, Program.run, replied]
    rfl
  rw [checkSource_of_ok read] at result
  refine ⟨?_, ⟨schema, described, ?_⟩, ?_⟩
  · simp only [outcome, validateSource_eq]
    rfl
  · rw [result, ← none_iff]
    split <;> simp_all
  · intro fails
    rw [if_neg (none_iff.not.2 fails)] at result
    refine ⟨_, result, mem_missing, ?_⟩
    rw [Encoding.columns_eq_eraseDups]
    exact (pairwise_eraseDups _).filter _

def orderEntries : List (Option String × Option String) :=
  [(some "region", none), (none, some "INTEGER"), (some "amount", some "DOUBLE")]

def describingOrders : Setting where
  engine := .ofReplies [.ok
    [⟨"column_name", .texts (orderEntries.map Prod.fst)⟩,
      ⟨"column_type", .texts (orderEntries.map Prod.snd)⟩]]
  session := "s"

/-- `month` and `sold` are mentioned three times in four roles, and reported once each,
`month` first. The case of a name matters. -/
def unmatchedOrders : Encoding where
  x := ["month", "region"]
  y := ["amount", "sold", "Region"]
  series := ["month"]
  fx := []
  fy := ["sold"]
  r := []
  text := ["month", "sold"]

theorem orders_checked :
    let check (encoding : Encoding) := (validateSource "t" encoding).run describingOrders {}
    ((check { Encoding.empty with x := ["region"], y := ["amount", "region"] }).result =
        .ok [⟨"region", ""⟩, ⟨"amount", "DOUBLE"⟩] ∧
      (check { Encoding.empty with x := ["region"], y := ["amount", "region"] }).statements =
        [.describe "t"]) ∧
    (check unmatchedOrders).result = .error (.schema "t" ["month", "sold", "Region"]) ∧
    ∀ name, name ∈ ["month", "sold", "Region"] ↔
      (∃ role, name ∈ unmatchedOrders.get role) ∧ some name ∉ orderEntries.map Prod.fst := by
  intro check
  have passing := validateSource_exact "t"
    { Encoding.empty with x := ["region"], y := ["amount", "region"] } describingOrders {}
    orderEntries rfl rfl rfl
  have failing := (validateSource_exact "t" unmatchedOrders describingOrders {}
    orderEntries rfl rfl rfl).2.2
    fun passes => absurd (passes .x "month" (by decide)) (by decide)
  obtain ⟨missing, result, mem, -⟩ := failing
  have evaluated : (check unmatchedOrders).result =
      .error (.schema "t" ["month", "sold", "Region"]) := by decide +kernel
  cases Except.error.inj (evaluated.symm.trans result)
  exact ⟨⟨by decide +kernel, passing.1⟩, evaluated, mem⟩

end ChartQuery
