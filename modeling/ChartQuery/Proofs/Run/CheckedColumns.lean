import ChartQuery.Proofs.Plan.SourceColumns
import ChartQuery.Proofs.Run.FaithfulEngine
import ChartQuery.Proofs.Run.Sending

/-!
# Only checked columns are used

The columns of a source are checked for the encoding as it is given, and the reshaped
table is made from the encoding after grouped bars have traded places. Nothing slips
through between the two: the statement for the reshaped table refers to the columns
that the encoding names, and it is sent only right after a description of its source
that lists all of them.

Main statement: `reshape_uses_checked_columns`.
-/

namespace ChartQuery

open Program Event

/-- A description lists a column of its table. -/
def Lists (frame : Frame) (name : String) : Prop :=
  ∃ column cells, frame.column? "column_name" = some column ∧ column.cells = .texts cells ∧
    some name ∈ cells

namespace Schema

variable {frame : Frame} {schema : Schema} {name : String}

theorem textColumn_ok {label : String} {cells : List (Option String)}
    (read : textColumn frame label = .ok cells) :
    ∃ column, frame.column? label = some column ∧ column.cells = .texts cells := by
  unfold textColumn at read
  split at read
  · cases read
  rename_i column found
  split at read
  · rename_i texts
    exact ⟨column, found, by rw [texts, Except.ok.inj read]⟩
  · cases read

/-- The entries without a name, and those beyond the last type, are left out. The names
that are left are all in the list. -/
theorem mem_of_mem_ofColumns {names types : List (Option String)}
    (mem : name ∈ (ofColumns names types).names) : some name ∈ names := by
  simp only [Schema.names, ofColumns, List.mem_map, List.mem_filterMap] at mem
  obtain ⟨_, ⟨⟨entry, type⟩, paired, named⟩, rfl⟩ := mem
  obtain ⟨name, rfl, rfl⟩ := Option.map_eq_some_iff.1 named
  exact (List.of_mem_zip paired).1

theorem lists_of_mem (read : ofDescription frame = .ok schema) (mem : name ∈ schema.names) :
    Lists frame name := by
  obtain ⟨names, listed, read⟩ := Request.bind_eq_ok read
  obtain ⟨types, -, read⟩ := Request.bind_eq_ok read
  obtain ⟨column, found, texts⟩ := textColumn_ok listed
  rw [← Except.ok.inj read] at mem
  exact ⟨column, names, found, texts, mem_of_mem_ofColumns mem⟩

end Schema

/-- A source that passes the check has every column of the encoding. -/
theorem lists_of_checkSource {source : String} {encoding : Encoding} {frame : Frame}
    {schema : Schema} {name : String} (checked : checkSource source encoding frame = .ok schema)
    (mem : name ∈ Encoding.columns encoding) : Lists frame name := by
  obtain ⟨found, read, kept⟩ := Request.bind_eq_ok checked
  simp only at kept
  split at kept
  · rename_i all
    have present := List.filter_eq_nil_iff.1 (List.isEmpty_iff.1 all) name mem
    exact Schema.lists_of_mem read (Schema.has_eq_true.1 (by simpa using present))
  · cases kept

/-- The statement for the reshaped table of a valid request refers to the columns of the
source that its encoding names, and to no others. However the engine replies, a run makes
no other table than the result of its pre-query, which comes first, and the reshaped table,
and it makes that one right after a description of its source that lists each of these
columns. -/
theorem reshape_uses_checked_columns {names : TypeNames} {request : Request} {mark : Mark}
    (valid : request.validate = .ok mark) :
    let plan := Reshape.plan mark request.encoding
    (∀ name, name ∈ plan.sourceColumns ↔ name ∈ Encoding.columns request.encoding) ∧
    ∀ session events result, Steps session (request.prepare names) events (done result) →
      ∀ before table query reply after,
        exchanges (withoutDrops events) = before ++ ⟨.create table query, reply⟩ :: after →
          (before = [] ∧ request.effectivePreQuery.map Request.withoutTerminators = some query) ∨
          ∃ front source frame, before = front ++ [⟨.describe source, .ok frame⟩] ∧
            (plan.query source).sql = .ok query ∧
            ∀ name ∈ plan.sourceColumns, Lists frame name := by
  intro plan
  obtain ⟨-, placed⟩ := Request.validate_ok valid
  have columns (name : String) :
      name ∈ plan.sourceColumns ↔ name ∈ Encoding.columns request.encoding :=
    Reshape.mem_sourceColumns placed.facet
  refine ⟨columns, fun session events result run before table query reply after log => ?_⟩
  rcases (Request.maySend_of_log valid run log).of_create with first | ⟨source, known, made⟩
  · exact .inl first
  · obtain ⟨front, frame, schema, rfl, -, -, checked⟩ := known
    exact .inr ⟨front, source, frame, rfl, made, fun name mem =>
      lists_of_checkSource checked ((columns name).1 mem)⟩

/-- In the run of `sales` with a faithful engine, the reshaped table is made after the
description of the result of the pre-query, which lists the region and the amount. -/
theorem faithfulSales_uses_checked_columns :
    sales.validate = .ok .barY ∧ ∃ events result,
      Steps "s" (sales.prepare .duckdb) events (done result) ∧
      ∃ before table reply after,
        exchanges (withoutDrops events) =
          before ++ ⟨.create table salesReshape, reply⟩ :: after ∧
        ∃ front source frame, before = front ++ [⟨.describe source, .ok frame⟩] ∧
          Lists frame "region" ∧ Lists frame "amount" := by
  obtain ⟨events, steps, log⟩ := steps_work faithfulSales (sales.prepare .duckdb) {}
  rw [work_faithfulSales] at log
  have checked := (reshape_uses_checked_columns rfl).2 _ _ _ steps [_, _] _ _ _ _ log
  refine ⟨rfl, events, _, steps, [_, _], _, _, _, log, ?_⟩
  obtain ⟨first, -⟩ | ⟨front, source, frame, before, -, all⟩ := checked
  · cases first
  · exact ⟨front, source, frame, before, all _ (by decide), all _ (by decide)⟩

end ChartQuery
