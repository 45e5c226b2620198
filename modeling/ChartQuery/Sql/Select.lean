import ChartQuery.Error
import ChartQuery.Sql.Condition

/-!
# Queries

A query is given by its clauses. Columns are names and are quoted when the
query is written; expressions, the aggregate, the source and the destination
are SQL already. A query without a source cannot be written, and one without
anything to select selects every column.
-/

namespace ChartQuery

inductive Direction where
  | ascending
  | descending
  deriving DecidableEq, Repr

namespace Direction

def sql : Direction → String
  | ascending => "ASC"
  | descending => "DESC"

def ofName? : String → Option Direction
  | "asc" => some ascending
  | "desc" => some descending
  | _ => none

end Direction

/-- The order of the rows: an expression as it stands, or columns with a
direction each. -/
inductive RowOrder where
  | raw (expression : String)
  | columns (columns : List (String × Direction))
  deriving DecidableEq, Repr

namespace RowOrder

def ascending (names : List String) : RowOrder :=
  .columns (names.map fun name => (name, .ascending))

/-- The order as SQL. A blank expression and an empty list order nothing. -/
def sql? : RowOrder → Option String
  | raw expression => if Text.isBlank expression then none else some expression
  | columns [] => none
  | columns list =>
    some (commaSeparated (list.map fun (name, direction) => quoteName name ++ " " ++ direction.sql))

end RowOrder

structure Select where
  columns : List String := []
  expressions : List String := []
  aggregate : Option String := none
  source : Option String := none
  conditions : List Condition := []
  groupBy : List String := []
  orderBy : Option RowOrder := none
  limit : Option Nat := none
  destination : Option String := none
  deriving DecidableEq, Repr

namespace Select

def items (query : Select) : List String :=
  query.columns.map quoteName ++ query.expressions ++ query.aggregate.toList

def selectList (query : Select) : String :=
  if query.items.isEmpty then "*" else commaSeparated query.items

def conjunction (conditions : List Condition) : String :=
  String.intercalate " AND " (conditions.map Condition.sql)

def clause (keyword : String) : Option String → String
  | some body => keyword ++ body
  | none => ""

def whereClause (query : Select) : String :=
  clause " WHERE " (if query.conditions.isEmpty then none else some (conjunction query.conditions))

def groupClause (query : Select) : String :=
  clause " GROUP BY " (if query.groupBy.isEmpty then none else some (nameList query.groupBy))

def orderClause (query : Select) : String :=
  clause " ORDER BY " (query.orderBy.bind RowOrder.sql?)

def limitClause (query : Select) : String :=
  clause " LIMIT " (query.limit.map toString)

/-- The query over a source, without a destination. -/
def body (query : Select) (source : String) : String :=
  "SELECT " ++ query.selectList ++ " FROM " ++ Text.trim source ++ query.whereClause ++
    query.groupClause ++ query.orderClause ++ query.limitClause

def creation (destination : String) : String :=
  "CREATE TABLE " ++ destination ++ " AS "

/-- The query as SQL. With a destination its result becomes a table. -/
def sql (query : Select) : Except Error String :=
  match query.source with
  | none => .error (.statement .noSource)
  | some source =>
    if Text.isBlank source then .error (.statement .noSource)
    else
      match query.destination with
      | some destination => .ok (creation destination ++ query.body source)
      | none => .ok (query.body source)

end Select

end ChartQuery
