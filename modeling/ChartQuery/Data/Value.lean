import ChartQuery.Calendar.Reader
import ChartQuery.Data.FieldType
import ChartQuery.Json.Basic
import ChartQuery.Source.Frame

/-!
# Values

A value is a cell as a chart takes it: a number, a date, a text or nothing.
`Cell.coerce` brings a cell to the type of its field. A cell that the type
cannot hold becomes nothing; it is never an error.
-/

namespace ChartQuery

inductive Value where
  | null
  | number (value : Double)
  | date (value : DateTime)
  | text (value : String)
  deriving DecidableEq, Repr

namespace Value

/-- Dates are written with milliseconds, and what is not finite as `null`. -/
def toJson : Value → Json
  | null => .null
  | number x => .ofDouble x
  | date t => .string (t.text 3)
  | text s => .string s

def text? : Value → Option String
  | text s => some s
  | _ => none

end Value

namespace Cell

/-- The least and the greatest integer of 64 bits. -/
def leastInteger : Int := -0x8000000000000000

def greatestInteger : Int := 0x7FFFFFFFFFFFFFFF

/-- The number in a cell, as it is stored. Dates and times are stored as counts. -/
def number? : Cell → Option Double
  | null => none
  | truth b => some (.ofInt (if b then 1 else 0))
  | text _ => none
  | integer n => some (.ofInt n)
  | real x => some x
  | date days => some (.ofInt days)
  | dateTime _ count => some (.ofInt count)
  | timeOfDay n => some (.ofInt n)
  | bytes _ => none

/-- The integer part of the number in a cell that is no date or time. -/
def integer? : Cell → Option Int
  | truth b => some (if b then 1 else 0)
  | integer n => some n
  | real x => x.truncate?
  | _ => none

def ofMilliseconds? (count : Int) : Option DateTime :=
  if leastInteger ≤ count ∧ count ≤ greatestInteger then DateTime.ofCount? .millisecond count
  else none

/-- The time in a cell. Numbers are milliseconds from the beginning of 1970. -/
def dateTime? : Cell → Option DateTime
  | date days => DateTime.ofDay? days
  | dateTime unit count => DateTime.ofCount? unit count
  | timeOfDay n => DateTime.ofTimeOfDay? n
  | text s => DateTime.ofText? s
  | cell => cell.integer?.bind ofMilliseconds?

/-- A byte as text: itself if it is a visible character of ASCII, which a blank
is not, or two hexadecimal digits. -/
def byteText (b : UInt8) : List Char :=
  let n := b.toNat
  if 0x20 < n ∧ n < 0x7F then [Char.ofNat n]
  else
    let digits := Nat.toDigits 16 n
    '\\' :: 'x' :: (List.replicate (2 - digits.length) '0' ++ digits)

def shownBytes : Nat := 60

/-- Bytes as text. An ellipsis behind the quotes stands for the bytes that are
not shown. -/
def bytesText (bytes : List UInt8) : String :=
  let ending := if shownBytes < bytes.length then ['"', '…'] else ['"']
  String.ofList ('b' :: '"' :: ((bytes.take shownBytes).flatMap byteText ++ ending))

def toNumber : Cell → Value
  | text s => ((Double.ofText? (Text.trim s)).map Value.number).getD .null
  | cell => (cell.number?.map Value.number).getD .null

def toDate (cell : Cell) : Value :=
  (cell.dateTime?.map Value.date).getD .null

/-- A cell as text. Whatever is stored as a number is written as that number. -/
def toText : Cell → Value
  | null => .null
  | truth b => .text (if b then "true" else "false")
  | text s => .text s
  | bytes b => .text (bytesText b)
  | cell => .text ((cell.number?.map Double.text).getD "")

def coerce (cell : Cell) : FieldType → Value
  | .number => cell.toNumber
  | .date => cell.toDate
  | .text => cell.toText

theorem coerce_null (type : FieldType) : Cell.null.coerce type = .null := by
  cases type <;> rfl

example : bytesText [0x61, 0x20, 0x22, 0xFF] = "b\"a\\x20\"\\xff\"" := by decide +kernel

example : (bytesText (List.replicate 60 0x61)).length = 63 := by decide +kernel

example : (bytesText (List.replicate 61 0x61)).length = 64 := by decide +kernel

end Cell

end ChartQuery
