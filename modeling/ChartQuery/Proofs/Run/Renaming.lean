import ChartQuery.Proofs.Program.Alike
import ChartQuery.Proofs.Run.Stages

/-!
# Runs up to the names of temporary tables

The names of its temporary tables flow into the statements of a run, and into
nothing else: what the run does next, the data and the description are the same
whatever the names are.

Main statement: `steps_alike`.
-/

namespace ChartQuery

open Program Text

variable {tables tables' : Tables}

/-- Data and description are the same, and the statements are the same up to the
names of the tables. -/
structure Prepared.Alike (tables tables' : Tables) (p p' : Prepared) : Prop where
  data : p.data = p'.data
  description : p.description = p'.description
  preQuery : Option.Rel (TextAlike tables tables') p.queries.preQuery p'.queries.preQuery
  reshape : TextAlike tables tables' p.queries.reshape p'.queries.reshape
  final : TextAlike tables tables' p.queries.final p'.queries.final

theorem Prepared.Alike.eq {p p' : Prepared} (h : Prepared.Alike tables tables p p') : p = p' := by
  obtain ⟨data, description, ⟨preQuery, reshape, final⟩⟩ := p
  obtain ⟨data', description', ⟨preQuery', reshape', final'⟩⟩ := p'
  have sameData : data = data' := h.data
  have sameDescription : description = description' := h.description
  have sameReshape : reshape = reshape' := h.reshape.eq
  have sameFinal : final = final' := h.final.eq
  have samePreQuery : preQuery = preQuery' := by
    cases h.preQuery with
    | none => rfl
    | some same => rw [same.eq]
  rw [sameData, sameDescription, sameReshape, sameFinal, samePreQuery]

namespace Request

variable {names : TypeNames} {request : Request} {mark : Mark}

theorem openSource_alike :
    Program.Alike tables tables' (fun opened opened' =>
      TextAlike tables tables' opened.1 opened'.1 ∧
        Option.Rel (TextAlike tables tables') opened.2 opened'.2)
      request.openSource request.openSource := by
  rw [openSource_eq]
  cases request.effectivePreQuery with
  | none => exact ⟨.refl _, .none⟩
  | some query =>
    have statement : (preQueryStatement query (tables .preQuery)).Alike tables tables'
        (preQueryStatement query (tables' .preQuery)) :=
      (((TextAlike.refl _).append (.table .preQuery)).append (.refl _)).append (.refl _)
    apply alike_temp .preQuery
    apply alike_checkpoint
    apply alike_bind (alike_consult_same .ok statement)
    intro frame _ _
    exact ⟨.table .preQuery, .some statement⟩

theorem sourceSql_alike (plan : Reshape) {source source' : String}
    (h : TextAlike tables tables' source source') :
    TextAlike tables tables' (plan.sourceSql source) (plan.sourceSql source') := by
  unfold Reshape.sourceSql
  split
  · simp only [String.append_assoc]
    exact h.append (.refl _)
  · exact h

theorem reshapeStatement_alike (request : Request) (mark : Mark) {source source' : String}
    (h : TextAlike tables tables' source source') :
    (request.reshapeStatement mark source (tables .reshape)).Alike tables tables'
      (request.reshapeStatement mark source' (tables' .reshape)) := by
  have query := (TextAlike.refl ("SELECT " ++
    ((Reshape.plan mark request.encoding).query source).selectList ++ " FROM ")).append
      (sourceSql_alike (Reshape.plan mark request.encoding) h)
  exact (((TextAlike.refl _).append (.table .reshape)).append (.refl _)).append query

theorem checkSource_alike {source source' : String} (h : TextAlike tables tables' source source')
    (encoding : Encoding) (frame : Frame) :
    ResultsAlike tables tables' Eq (checkSource source encoding frame)
      (checkSource source' encoding frame) := by
  unfold checkSource
  cases Schema.ofDescription frame with
  | error e => exact Error.Alike.refl e
  | ok schema =>
    simp only [Bind.bind, Except.bind]
    split
    · rfl
    · exact Error.Alike.schema _ h

structure Reshaped.Alike (tables tables' : Tables) (table table' : Reshaped) : Prop where
  reference : table.reference = quoteName (tables .reshape).name
  reference' : table'.reference = quoteName (tables' .reshape).name
  schema : table.schema = table'.schema
  statement : TextAlike tables tables' table.statement table'.statement

theorem reshaping_alike {source source' : String} (h : TextAlike tables tables' source source') :
    Program.Alike tables tables' (Reshaped.Alike tables tables')
      (request.reshaping mark source) (request.reshaping mark source') := by
  unfold reshaping
  have described : (Statement.describe source).Alike tables tables' (.describe source') :=
    (TextAlike.refl _).append h
  have statement := reshapeStatement_alike request mark h
  have made : (Statement.describe (quoteName (tables .reshape).name)).Alike tables tables'
      (.describe (quoteName (tables' .reshape).name)) := (TextAlike.refl _).append (.table .reshape)
  apply alike_checkpoint
  apply alike_bind (alike_consult described (checkSource_alike h _))
  intro schema _ _
  apply alike_temp .reshape
  apply alike_checkpoint
  apply alike_bind (alike_consult_same .ok statement)
  intro frame _ _
  apply alike_checkpoint
  apply alike_bind (alike_consult_same Schema.ofDescription made)
  intro schema _ same
  subst same
  exact ⟨rfl, rfl, rfl, statement⟩

theorem finalText_alike (tables tables' : Tables) (mark : Mark) (schema : Schema)
    (aggregate : Option Aggregate) :
    (Statement.select (finalText mark schema (quoteName (tables .reshape).name) aggregate)).Alike
      tables tables'
      (.select (finalText mark schema (quoteName (tables' .reshape).name) aggregate)) := by
  unfold Statement.Alike
  cases aggregate with
  | none => exact (TextAlike.refl _).append (.table .reshape)
  | some f =>
    simp only [Statement.sql_select, finalText, Aggregation.body_eq _ _ _ (firm_quoteName _)]
    exact ((TextAlike.refl _).append (.table .reshape)).append (.refl _)

theorem isDistinct_alike (schema : Schema) {table table' : String}
    (h : TextAlike tables tables' table table') :
    Program.Alike tables tables' Eq (isDistinct mark schema table)
      (isDistinct mark schema table') := by
  rw [isDistinct_eq, isDistinct_eq]
  unfold Probe.sql?
  split
  · rename_i text
    split at text
    · rename_i empty
      simp only [if_pos empty]
      rfl
    · cases text
  · rename_i query text
    split at text
    · cases text
    · rename_i some
      cases text
      simp only [if_neg some]
      exact alike_consult_same Probe.verdict ((TextAlike.refl _).append h)

theorem finishing_alike {preQuery preQuery' : Option String} {table table' : Reshaped}
    (texts : Option.Rel (TextAlike tables tables') preQuery preQuery')
    (h : Reshaped.Alike tables tables' table table') :
    Program.Alike tables tables' (Prepared.Alike tables tables')
      (request.finishing names mark preQuery table)
      (request.finishing names mark preQuery' table') := by
  unfold finishing
  rw [← h.schema, h.reference, h.reference']
  apply alike_checkpoint
  apply alike_bind (isDistinct_alike table.schema (.table .reshape))
  intro distinct _ same
  subst same
  have final :=
    finalText_alike tables tables' mark table.schema (request.aggregateFor mark distinct)
  apply alike_checkpoint
  apply alike_bind (alike_consult_same _ final)
  intro data _ same
  subst same
  refine ⟨rfl, ?_, texts, h.statement, ?_⟩
  · simp only [prepared, h.schema]
    cases texts <;> rfl
  · simpa only [prepared, ← h.schema, h.reference, h.reference', Statement.Alike,
      Statement.sql_select] using final

/-- A run goes the same way whatever the names of its tables are. -/
theorem steps_alike (tables tables' : Tables) :
    Program.Alike tables tables' (Prepared.Alike tables tables')
      (request.steps names mark) (request.steps names mark) := by
  rw [steps_eq]
  apply alike_bind openSource_alike
  intro opened opened' ⟨sources, texts⟩
  apply alike_bind (reshaping_alike sources)
  intro table table' h
  exact finishing_alike texts h

end Request

end ChartQuery
