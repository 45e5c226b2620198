/-!
# Generated names

Names that the library gives to tables and columns begin with `__sqlchart_`
and end with two underscores. The name of a temporary table carries what the
table is for, the session and a number that the session uses once.
-/

namespace ChartQuery

namespace Names

/-- The column that holds the name of a rotated column. -/
def key : String := "__sqlchart_key__"

/-- The column that holds the value of a rotated column. -/
def value : String := "__sqlchart_value__"

def verdict : String := "__sqlchart_is_distinct__"

def separator : String := "-"

def tempPrefix : String := "__sqlchart_tmp_"

def tempSuffix : String := "__"

/-- A name that begins and ends as temporary tables do. -/
def isTemp (name : String) : Bool :=
  tempPrefix.toList.isPrefixOf name.toList && tempSuffix.toList.isSuffixOf name.toList

end Names

/-- What a temporary table is for. -/
inductive TempPurpose where
  /-- The result of the pre-query. -/
  | preQuery
  /-- The reshaped table. -/
  | reshape
  deriving DecidableEq, Repr

namespace TempPurpose

def word : TempPurpose → String
  | preQuery => "prequery"
  | reshape => "transform"

def ofWord? : String → Option TempPurpose
  | "prequery" => some preQuery
  | "transform" => some reshape
  | _ => none

end TempPurpose

structure TempTable where
  purpose : TempPurpose
  session : String
  number : Nat
  deriving DecidableEq, Repr

namespace TempTable

def name (table : TempTable) : String :=
  Names.tempPrefix ++ table.purpose.word ++ "_" ++ table.session ++ "_" ++
    toString table.number ++ Names.tempSuffix

theorem isTemp_name (table : TempTable) : Names.isTemp table.name := by
  simp only [Names.isTemp, Bool.and_eq_true, List.isPrefixOf_iff_prefix,
    List.isSuffixOf_iff_suffix, name, String.toList_append]
  constructor
  · simp only [List.append_assoc]
    exact List.prefix_append ..
  · exact List.suffix_append ..

end TempTable

end ChartQuery
