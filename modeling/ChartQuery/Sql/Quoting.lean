import ChartQuery.Text.Space

/-!
# Quoting

Names stand between double quotes and texts between single quotes, and the
quote itself is written twice inside. Every generated statement gets its names
and texts from here, so that a name with quotes, commas or keywords in it is not
taken for syntax.
-/

namespace ChartQuery

namespace Quoted

def double (quote : Char) : List Char → List Char
  | [] => []
  | c :: rest => if c = quote then quote :: quote :: double quote rest else c :: double quote rest

def write (quote : Char) (s : List Char) : List Char :=
  quote :: (double quote s ++ [quote])

end Quoted

/-- A name as SQL: `Open` as `"Open"`. -/
def quoteName (name : String) : String :=
  String.ofList (Quoted.write '"' name.toList)

def quoteText (text : String) : String :=
  String.ofList (Quoted.write '\x27' text.toList)

def nameList (names : List String) : String :=
  String.intercalate ", " (names.map quoteName)

/-- The parts of a catalog between its dots. A missing or blank catalog has
none. -/
def catalogParts : Option String → List String
  | none => []
  | some catalog =>
    if Text.isBlank catalog then []
    else (Text.pieces (· == '.') catalog.toList).map String.ofList

/-- A table in a catalog, each part quoted by itself: `lake.main` and `stocks`
as `"lake"."main"."stocks"`. -/
def tableReference (catalog : Option String) (table : String) : String :=
  String.intercalate "." ((catalogParts catalog ++ [table]).map quoteName)

end ChartQuery
