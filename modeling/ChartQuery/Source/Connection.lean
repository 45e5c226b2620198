import ChartQuery.Error

/-!
# Connections

A connection string names a database in memory or a database file.
-/

namespace ChartQuery

inductive Connection where
  | memory
  | file (path : String)
  deriving DecidableEq, Repr

namespace Connection

def scheme : List Char := "duckdb://".toList

/-- The connection that a text names, white space around it aside. What follows
the scheme is the path as it stands, and slashes alone are no path. -/
def ofText (text : String) : Except Error Connection :=
  let uri := (Text.trim text).toList
  if scheme.isPrefixOf uri then
    let path := uri.drop scheme.length
    if path = "memory".toList ∨ path = ":memory:".toList then .ok .memory
    else if path.all (· == '/') then .error (.configuration .emptyPath)
    else .ok (.file (String.ofList path))
  else .error (.configuration (.unknownConnection (String.ofList uri)))

end Connection

end ChartQuery
