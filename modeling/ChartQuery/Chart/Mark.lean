import ChartQuery.Chart.Role

/-!
# Marks

The mark of a chart is its type: bars, lines, dots and so on. A query depends
on a mark through a few properties only: which axis holds the values and which
the categories, whether values may be aggregated without being told to, and
whether bars are grouped along a facet.
-/

namespace ChartQuery

inductive Mark where
  | barX
  | barY
  /-- Vertical bars, grouped by category along the horizontal facet. -/
  | barYGrouped
  | line
  | areaX
  | areaY
  | dot
  | cell
  | text
  | tickX
  | tickY
  | rectY
  | pie
  | treemap
  deriving DecidableEq, Repr

namespace Mark

def all : List Mark :=
  [barX, barY, barYGrouped, line, areaX, areaY, dot, cell, text, tickX, tickY, rectY, pie, treemap]

def name : Mark → String
  | barX => "barX"
  | barY => "barY"
  | barYGrouped => "barYGrouped"
  | line => "line"
  | areaX => "areaX"
  | areaY => "areaY"
  | dot => "dot"
  | cell => "cell"
  | text => "text"
  | tickX => "tickX"
  | tickY => "tickY"
  | rectY => "rectY"
  | pie => "pie"
  | treemap => "treemap"

def ofName? (name : String) : Option Mark :=
  all.find? fun mark => mark.name == name

def isHorizontal : Mark → Bool
  | barX | areaX | tickX => true
  | _ => false

/-- Marks whose values are summed when several rows share a position. -/
def allowsAggregation : Mark → Bool
  | barX | barY | barYGrouped | line | areaX | areaY | rectY => true
  | _ => false

/-- Marks without axes, which group by series or text. -/
def isRadial : Mark → Bool
  | pie | treemap => true
  | _ => false

/-- Marks that place the categories on the horizontal facet and the series on
the x axis. -/
def isGrouped : Mark → Bool
  | barYGrouped => true
  | _ => false

/-- The axis of the values, whose columns are stacked if there are several. -/
def valueAxis (mark : Mark) : Role :=
  if mark.isHorizontal then .x else .y

def categoryAxis (mark : Mark) : Role :=
  if mark.isHorizontal then .y else .x

/-- The roles that tell one drawn mark from another. -/
def identifyingRoles (mark : Mark) : List Role :=
  [mark.categoryAxis, .series, .fx, .fy, .text]

theorem ofName?_name (mark : Mark) : ofName? mark.name = some mark := by
  cases mark <;> decide

theorem valueAxis_ne_categoryAxis (mark : Mark) : mark.valueAxis ≠ mark.categoryAxis := by
  cases mark <;> decide

end Mark

end ChartQuery
