import ChartQuery.Json.Basic

/-!
# Labels

The labels of the two axes and of the series, as far as they are known.
-/

namespace ChartQuery

structure Labels where
  x : Option String := none
  y : Option String := none
  series : Option String := none
  deriving DecidableEq, Repr

namespace Labels

/-- The labels of one record, and those of another where the first has none. -/
def orElse (labels fallback : Labels) : Labels where
  x := labels.x.or fallback.x
  y := labels.y.or fallback.y
  series := labels.series.or fallback.series

def ofJson? (json : Json) : Option Labels := do
  let fields ← json.fields? ["x", "y", "series"]
  let label := Json.optional? Json.toString?
  let x ← fields.read? "x" 0 none label
  let y ← fields.read? "y" 1 none label
  let series ← fields.read? "series" 2 none label
  return ⟨x, y, series⟩

def toJson (labels : Labels) : Json :=
  .ofPresent
    [("x", labels.x.map .string), ("y", labels.y.map .string),
      ("series", labels.series.map .string)]

end Labels

end ChartQuery
