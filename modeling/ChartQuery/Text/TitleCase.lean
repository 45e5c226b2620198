import ChartQuery.Text.Space
import ChartQuery.Text.UpperCase

/-!
# Title case

A column name as a label: `consensus_income` becomes `Consensus Income` and
`closePrice` becomes `Close Price`. Underscores and hyphens separate words like
white space, and so does the step from a small letter or a digit of ASCII to a
capital one. The first character of a word is put in upper case, and the others
stay as they are.
-/

namespace ChartQuery.Text

def separatorToBlank (c : Char) : Char :=
  if c = '_' ∨ c = '-' then ' ' else c

/-- A small letter or a digit, and then a capital letter. -/
def isCamelStep (a b : Char) : Bool :=
  (a.isLower || a.isDigit) && b.isUpper

/-- A blank at every step from a small letter or a digit to a capital letter. -/
def spaceCamelSteps : List Char → List Char
  | a :: b :: rest =>
    if isCamelStep a b then a :: ' ' :: spaceCamelSteps (b :: rest)
    else a :: spaceCamelSteps (b :: rest)
  | s => s

def capitalize : List Char → List Char
  | [] => []
  | c :: rest => upperCase c ++ rest

def titleWords (s : List Char) : List (List Char) :=
  words (spaceCamelSteps (s.map separatorToBlank))

def titleCase (name : String) : String :=
  String.ofList ([' '].intercalate ((titleWords name.toList).map capitalize))

end ChartQuery.Text
