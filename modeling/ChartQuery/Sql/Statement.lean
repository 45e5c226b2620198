import ChartQuery.Sql.Select

/-!
# Statements

The statements that a run sends to the engine. Tables that a run creates are
given by name; a table that is described or read may lie in a catalog, and is
given as SQL.
-/

namespace ChartQuery

inductive Statement where
  /-- The result of a query becomes a table. -/
  | create (table query : String)
  | describe (reference : String)
  | select (query : String)
  | drop (table : String)
  deriving DecidableEq, Repr

namespace Statement

def sql : Statement → String
  | create table query => Select.creation (quoteName table) ++ query
  | describe reference => "DESCRIBE " ++ reference
  | select query => query
  | drop table => "DROP TABLE IF EXISTS " ++ quoteName table

@[simp] theorem sql_create (table query : String) :
    (create table query).sql = "CREATE TABLE " ++ quoteName table ++ " AS " ++ query := rfl

@[simp] theorem sql_describe (reference : String) :
    (describe reference).sql = "DESCRIBE " ++ reference := rfl

@[simp] theorem sql_select (query : String) : (select query).sql = query := rfl

def isDrop : Statement → Bool
  | drop _ => true
  | _ => false

end Statement

end ChartQuery
