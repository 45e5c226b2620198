import ChartQuery.Error
import ChartQuery.Sql.Statement
import ChartQuery.Run.Program

/-!
# Texts up to the names of temporary tables

The names of temporary tables are not the same in two runs. Two texts are alike
if one template gives both: a sequence of texts that stand as they are and of
places where a quoted name stands. The tables of the one run fill it to the first
text, and those of the other run to the second.
-/

namespace ChartQuery

abbrev Tables := TempPurpose → TempTable

inductive Piece where
  | text (s : String)
  /-- The quoted name of the table for a purpose. -/
  | table (purpose : TempPurpose)

def Piece.fill (tables : Tables) : Piece → String
  | text s => s
  | table purpose => quoteName (tables purpose).name

abbrev Template := List Piece

def Template.fill (tables : Tables) : Template → String
  | [] => ""
  | piece :: rest => piece.fill tables ++ fill tables rest

theorem Template.fill_append (tables : Tables) (first last : Template) :
    fill tables (first ++ last) = fill tables first ++ fill tables last := by
  induction first with
  | nil => simp [fill]
  | cons piece rest ih => simp [fill, ih, String.append_assoc]

variable {tables tables' : Tables}

/-- Two texts that are the same up to the names of the tables. -/
def TextAlike (tables tables' : Tables) (s s' : String) : Prop :=
  ∃ template : Template, s = template.fill tables ∧ s' = template.fill tables'

namespace TextAlike

theorem refl (s : String) : TextAlike tables tables' s s :=
  ⟨[.text s], by simp [Template.fill, Piece.fill]⟩

theorem table (purpose : TempPurpose) :
    TextAlike tables tables' (quoteName (tables purpose).name) (quoteName (tables' purpose).name) :=
  ⟨[.table purpose], by simp [Template.fill, Piece.fill]⟩

theorem append {s s' t t' : String} (h : TextAlike tables tables' s s')
    (k : TextAlike tables tables' t t') : TextAlike tables tables' (s ++ t) (s' ++ t') := by
  obtain ⟨first, rfl, rfl⟩ := h
  obtain ⟨last, rfl, rfl⟩ := k
  exact ⟨first ++ last, by simp [Template.fill_append]⟩

theorem eq {s s' : String} (h : TextAlike tables tables s s') : s = s' := by
  obtain ⟨template, rfl, rfl⟩ := h
  rfl

end TextAlike

namespace Statement

def Alike (tables tables' : Tables) (statement statement' : Statement) : Prop :=
  TextAlike tables tables' statement.sql statement'.sql

end Statement

namespace Error

def missing : Error → List String
  | schema _ missing => missing
  | _ => []

/-- Two errors of one kind that miss the same columns, and whose messages are the same up to
the names of the tables. -/
structure Alike (tables tables' : Tables) (e e' : Error) : Prop where
  kind_eq : e.kind = e'.kind
  missing_eq : e.missing = e'.missing
  message : TextAlike tables tables' e.message e'.message

theorem Alike.refl (e : Error) : Alike tables tables' e e := ⟨rfl, rfl, .refl _⟩

theorem Alike.schema {table table' : String} (missing : List String)
    (h : TextAlike tables tables' table table') :
    Alike tables tables' (.schema table missing) (.schema table' missing) :=
  ⟨rfl, rfl, (((TextAlike.refl _).append h).append (.refl _)).append (.refl _)⟩

end Error

/-- Two results with values that belong together, or with errors that are alike. -/
def ResultsAlike {α β : Type} (tables tables' : Tables) (values : α → β → Prop) :
    Except Error α → Except Error β → Prop
  | .ok a, .ok b => values a b
  | .error e, .error e' => e.Alike tables tables' e'
  | _, _ => False

abbrev Reply.Alike (tables tables' : Tables) : Reply → Reply → Prop :=
  ResultsAlike tables tables' Eq

end ChartQuery
