import ChartQuery.Chart.Role
import ChartQuery.Json.Basic

/-!
# Encodings

An encoding says which columns of the source play each role, in order. A role
may have no column, one or several.

In JSON a role is a column, an array of columns or `null`, and empty names are
left out. An encoding is written with arrays only, and without the roles that
have no column.
-/

namespace ChartQuery

/-- The columns of each role. -/
abbrev Encoding := PerRole (List String)

namespace Encoding

def empty : Encoding := PerRole.const []

def isSet (encoding : Encoding) (role : Role) : Bool :=
  !(encoding.get role).isEmpty

def definedRoles (encoding : Encoding) : List Role :=
  Role.all.filter (isSet encoding)

def isEmpty (encoding : Encoding) : Bool :=
  (definedRoles encoding).isEmpty

/-- Every column that plays a role, once, in the order of the roles. -/
def columns (encoding : Encoding) : List String :=
  (Role.all.flatMap encoding.get).eraseDups

def readColumns? : Json → Option (List String)
  | .null => some []
  | .string column => some ([column].filter fun name => !name.isEmpty)
  | json => json.toStrings?.map fun names => names.filter fun name => !name.isEmpty

def ofJson? (json : Json) : Option Encoding := do
  let fields ← json.fields? (Role.all.map Role.field)
  let x ← fields.read? "x" 0 [] readColumns?
  let y ← fields.read? "y" 1 [] readColumns?
  let series ← fields.read? "series" 2 [] readColumns?
  let fx ← fields.read? "fx" 3 [] readColumns?
  let fy ← fields.read? "fy" 4 [] readColumns?
  let r ← fields.read? "r" 5 [] readColumns?
  let text ← fields.read? "text" 6 [] readColumns?
  return ⟨x, y, series, fx, fy, r, text⟩

def toJson (encoding : Encoding) : Json :=
  .ofPresent <| encoding.entries.map fun (name, columns) =>
    (name, if columns.isEmpty then none else some (.ofStrings columns))

end Encoding

end ChartQuery
