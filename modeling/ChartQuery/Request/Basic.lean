import ChartQuery.Chart.Encoding
import ChartQuery.Chart.Labels
import ChartQuery.Error

/-!
# Requests

A request asks for the data of one chart: its mark, its encoding, and the
table or the query that the data come from. In JSON the members are called
`table`, `type`, `columns`, `preQuery`, `catalog`, `aggregate` and `labels`,
and all but the type may be left out even where places count.
-/

namespace ChartQuery

structure Request where
  /-- The source table, unless there is a pre-query. -/
  table : String := ""
  mark : Option Mark := none
  encoding : Encoding := Encoding.empty
  /-- A query whose result takes the place of the table. -/
  preQuery : Option String := none
  /-- The catalog of the table, with dots between its parts. -/
  catalog : Option String := none
  /-- An aggregate that is applied even where the mark does not ask for one. -/
  aggregate : Option Aggregate := none
  labels : Labels := {}
  deriving DecidableEq, Repr

namespace Mark

def ofJson? (json : Json) : Option Mark := json.toWord?.bind ofName?

def toJson (mark : Mark) : Json := .string mark.name

end Mark

namespace Aggregate

def ofJson? (json : Json) : Option Aggregate := json.toWord?.bind ofName?

def toJson (f : Aggregate) : Json := .string f.name

end Aggregate

namespace Request

/-- The mark of a request. An object may leave it out, an array may not. -/
def readMark? (fields : Json.Fields) : Option (Option Mark) :=
  match fields with
  | .named _ => fields.read? "type" 1 none (Json.optional? Mark.ofJson?)
  | .placed _ => (fields.get? "type" 1).bind (Json.optional? Mark.ofJson?)

def ofJson? (json : Json) : Option Request := do
  let fields ← json.fields?
    ["table", "type", "columns", "preQuery", "catalog", "aggregate", "labels"]
  let text := Json.optional? Json.toString?
  let table ← fields.read? "table" 0 "" Json.toString?
  let mark ← readMark? fields
  let encoding ← fields.read? "columns" 2 Encoding.empty Encoding.ofJson?
  let preQuery ← fields.read? "preQuery" 3 none text
  let catalog ← fields.read? "catalog" 4 none text
  let aggregate ← fields.read? "aggregate" 5 none (Json.optional? Aggregate.ofJson?)
  let labels ← fields.read? "labels" 6 {} Labels.ofJson?
  return { table, mark, encoding, preQuery, catalog, aggregate, labels }

def toJson (request : Request) : Json :=
  .object
    [("table", .string request.table), ("type", .ofOption Mark.toJson request.mark),
      ("columns", request.encoding.toJson), ("preQuery", .ofOption .string request.preQuery),
      ("catalog", .ofOption .string request.catalog),
      ("aggregate", .ofOption Aggregate.toJson request.aggregate),
      ("labels", request.labels.toJson)]

def effectivePreQuery (request : Request) : Option String :=
  request.preQuery.bind fun query =>
    if Text.isBlank query then none else some (Text.trim query)

end Request

end ChartQuery
