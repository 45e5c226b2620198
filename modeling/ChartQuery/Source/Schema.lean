import ChartQuery.Error
import ChartQuery.Source.Frame

/-!
# Schemas

A schema lists the columns of a table with the engine's names of their types.
It is read from the reply to `DESCRIBE`, which has a column of names and a
column of types, both texts. An entry without a name is left out, and an entry
without a type has the empty one.
-/

namespace ChartQuery

structure ColumnType where
  name : String
  type : String
  deriving DecidableEq, Repr

abbrev Schema := List ColumnType

namespace Schema

def names (schema : Schema) : List String := schema.map ColumnType.name

def has (schema : Schema) (name : String) : Bool :=
  schema.any fun column => column.name == name

def missing (schema : Schema) (columns : List String) : List String :=
  columns.filter fun name => !has schema name

def textColumn (frame : Frame) (name : String) : Except Error (List (Option String)) :=
  match frame.column? name with
  | none => .error (.internal (.noDescriptionColumn name))
  | some column =>
    match column.cells with
    | .texts cells => .ok cells
    | other => .error (.internal (.descriptionNotText name other.typeName))

/-- The entries that have a name. -/
def ofColumns (names types : List (Option String)) : Schema :=
  (names.zip types).filterMap fun (name, type) =>
    name.map fun name => ⟨name, type.getD ""⟩

def ofDescription (frame : Frame) : Except Error Schema := do
  let names ← textColumn frame "column_name"
  let types ← textColumn frame "column_type"
  return ofColumns names types

end Schema

end ChartQuery
