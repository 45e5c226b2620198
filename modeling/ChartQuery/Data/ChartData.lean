import ChartQuery.Chart.Labels
import ChartQuery.Data.Value
import ChartQuery.Source.Schema

/-!
# Chart data

Chart data is the reshaped table with every cell brought to the type of its
field, together with those types and the labels. Only the seven fields of the
roles are kept. A field that the schema lists twice has the type of its last
entry.
-/

namespace ChartQuery

/-- A row: the value of each role, as far as the table has its field. -/
abbrev Row := PerRole (Option Value)

abbrev FieldTypes := PerRole (Option FieldType)

namespace FieldTypes

def present (types : FieldTypes) : List (String × FieldType) :=
  types.entries.filterMap fun (name, type) => type.map (name, ·)

def ofField? (types : FieldTypes) (name : String) : Option FieldType :=
  (Role.ofField? name).bind types.get

def toJson (types : FieldTypes) : Json :=
  .ofPresent (types.entries.map fun (name, type) => (name, type.map fun type => .string type.name))

end FieldTypes

namespace Row

def ofField? (row : Row) (name : String) : Option Value :=
  (Role.ofField? name).bind row.get

def toJson (row : Row) : Json :=
  .ofPresent (row.entries.map fun (name, value) => (name, value.map Value.toJson))

end Row

structure ChartData where
  rows : List Row
  types : FieldTypes
  labels : Labels
  deriving DecidableEq, Repr

/-- A column of the reshaped table with the role it holds and its type. -/
structure TypedColumn where
  role : Role
  type : FieldType
  cells : List Cell
  deriving DecidableEq, Repr

namespace ChartData

/-- The column of a frame that an entry of the schema describes, if the entry
names the field of a role. -/
def typedColumn? (frame : Frame) (names : TypeNames) (entry : ColumnType) :
    Except Error (Option TypedColumn) :=
  match Role.ofField? entry.name with
  | none => .ok none
  | some role =>
    match frame.column? entry.name with
    | none => .error (.internal (.noResultColumn entry.name))
    | some column => .ok (some ⟨role, names.classify entry.type, column.cells.toList⟩)

/-- The columns that a schema describes, in its order. -/
def typedColumns (frame : Frame) (names : TypeNames) (schema : Schema) :
    Except Error (List TypedColumn) := do
  let columns ← schema.mapM (typedColumn? frame names)
  return columns.filterMap id

def typesOf (columns : List TypedColumn) : FieldTypes :=
  columns.foldl (fun types column => types.set column.role (some column.type)) (PerRole.const none)

def rowOf (columns : List TypedColumn) (i : Nat) : Row :=
  columns.foldl
    (fun row column =>
      match column.cells[i]? with
      | some cell => row.set column.role (some (cell.coerce column.type))
      | none => row)
    (PerRole.const none)

def ofFrame (frame : Frame) (schema : Schema) (names : TypeNames) (labels : Labels) :
    Except Error ChartData := do
  let columns ← typedColumns frame names schema
  return { rows := (List.range frame.height).map (rowOf columns)
           types := typesOf columns
           labels := labels }

def toJson (data : ChartData) : Json :=
  .object
    [("rows", .array (data.rows.map Row.toJson)), ("types", data.types.toJson),
      ("labels", data.labels.toJson)]

end ChartData

end ChartQuery
