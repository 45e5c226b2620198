import ChartQuery.Error

/-!
# Names that people type

On a command line a mark or an aggregate may be typed in any case and with
white space around it. Only letters of ASCII are folded: no other letter has
one of the letters of these names as its lower case.
-/

namespace ChartQuery

def sameLetters (a b : String) : Bool :=
  a.toList.map Char.toLower == b.toList.map Char.toLower

namespace Mark

def ofText (text : String) : Except Error Mark :=
  match all.find? fun mark => sameLetters mark.name (Text.trim text) with
  | some mark => .ok mark
  | none => .error (.configuration (.unknownMark text))

end Mark

namespace Aggregate

def ofText (text : String) : Except Error Aggregate :=
  match ofName? (String.ofList ((Text.trim text).toList.map Char.toLower)) with
  | some f => .ok f
  | none => .error (.configuration (.unknownAggregate text))

end Aggregate

end ChartQuery
