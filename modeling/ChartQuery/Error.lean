import ChartQuery.Chart.Mark
import ChartQuery.Chart.Aggregate

/-!
# Errors

An error names its cause, and `Error.message` is the only place where causes
are put into words. An engine may report an error of any kind in words of its
own, so each kind also has a case for a text as it was reported.
-/

namespace ChartQuery

/-- What is wrong with a request, a name or a connection. -/
inductive ConfigurationFault where
  | unknownMark (text : String)
  | unknownAggregate (text : String)
  | noMark
  | noTable
  | noColumns
  | severalX (mark : Mark) (columns : List String)
  | severalY (mark : Mark) (columns : List String)
  | severalRadii (count : Nat)
  | noSeries (mark : Mark)
  | facetTaken (mark : Mark)
  | emptyPath
  | unknownConnection (text : String)
  | reported (text : String)
  deriving DecidableEq, Repr

/-- What keeps a statement from being written. -/
inductive StatementFault where
  | noSource
  | reported (text : String)
  deriving DecidableEq, Repr

/-- Replies of an engine that do not have the agreed form. -/
inductive ReplyFault where
  | noDescriptionColumn (name : String)
  | descriptionNotText (name type : String)
  | noVerdict (name : String)
  | verdictNotBoolean (name type : String)
  | noVerdictRow
  | noResultColumn (name : String)
  | reported (text : String)
  deriving DecidableEq, Repr

inductive Error where
  | configuration (fault : ConfigurationFault)
  /-- Columns that a table does not have. -/
  | schema (table : String) (missing : List String)
  | statement (fault : StatementFault)
  /-- A statement that the engine refused. -/
  | engine (text : String)
  | cancelled
  | internal (fault : ReplyFault)
  deriving DecidableEq, Repr

/-- The kinds of errors, without their causes. -/
inductive Error.Kind where
  | configuration
  | schema
  | statement
  | engine
  | cancelled
  | internal
  deriving DecidableEq, Repr

def commaSeparated (texts : List String) : String := String.intercalate ", " texts

namespace ConfigurationFault

def message : ConfigurationFault → String
  | unknownMark text =>
    "Unknown chart type '" ++ text ++ "'. Valid types are: " ++
      commaSeparated (Mark.all.map Mark.name)
  | unknownAggregate text =>
    "Unknown aggregate '" ++ text ++
      "'. Valid aggregates are: sum, avg, mean, median, min, max, count"
  | noMark => "No chart type set"
  | noTable => "No table set. Provide a table or a pre-query"
  | noColumns => "No columns configured. Set at least one of x, y, series, fx, fy, r, text"
  | severalX mark columns =>
    "Chart type '" ++ mark.name ++ "' does not support multiple x columns (" ++
      commaSeparated columns ++ "). Use barX, areaX or tickX"
  | severalY mark columns =>
    "Chart type '" ++ mark.name ++ "' does not support multiple y columns (" ++
      commaSeparated columns ++ ")"
  | severalRadii count => "The r role takes a single column, got " ++ toString count
  | noSeries mark => "Chart type '" ++ mark.name ++ "' requires a series column"
  | facetTaken mark =>
    "Chart type '" ++ mark.name ++ "' places x on the fx facet; fx cannot be set"
  | emptyPath => "DuckDB file path cannot be empty"
  | unknownConnection text =>
    "Unsupported connection string format: " ++ text ++
      ". Supported: duckdb://memory, duckdb://<path>"
  | reported text => text

end ConfigurationFault

namespace StatementFault

def message : StatementFault → String
  | noSource => "SELECT statement requires a FROM clause"
  | reported text => text

end StatementFault

namespace ReplyFault

def absent (name : String) : String := "not found: \"" ++ name ++ "\" not found"

def otherType (expected found name : String) : String :=
  "invalid series dtype: expected `" ++ expected ++ "`, got `" ++ found ++
    "` for series with name `" ++ name ++ "`"

def message : ReplyFault → String
  | noDescriptionColumn name =>
    "DESCRIBE result has no '" ++ name ++ "' column: " ++ absent name
  | descriptionNotText name type =>
    "DESCRIBE column '" ++ name ++ "' is not text: " ++ otherType "String" type name
  | noVerdict name => "Probe returned no verdict: " ++ absent name
  | verdictNotBoolean name type =>
    "Probe verdict is not boolean: " ++ otherType "Boolean" type name
  | noVerdictRow => "Probe returned no row"
  | noResultColumn name =>
    "Described column '" ++ name ++ "' missing from result: " ++ absent name
  | reported text => text

end ReplyFault

namespace Error

def kind : Error → Kind
  | configuration _ => .configuration
  | schema .. => .schema
  | statement _ => .statement
  | engine _ => .engine
  | cancelled => .cancelled
  | internal _ => .internal

def message : Error → String
  | configuration fault => "Configuration error: " ++ fault.message
  | schema table missing =>
    "Schema error: columns not found in " ++ table ++ ": " ++ commaSeparated missing
  | statement fault => "Query build error: " ++ fault.message
  | engine text => "Engine error: " ++ text
  | cancelled => "Cancelled"
  | internal fault => "Internal error: " ++ fault.message

end Error

end ChartQuery
