import ChartQuery.Calendar.DateTime
import ChartQuery.Number.Decimal

/-!
# Frames

A frame is the table that an engine replies with: columns of equal length,
each of one type, in which any cell may be missing. `Cell` is one entry of a
column, whatever its type. Whole numbers of every width are integers, and
singles are doubles; the type of a column still tells them apart.
-/

namespace ChartQuery

inductive Cell where
  | null
  | truth (value : Bool)
  | text (value : String)
  | integer (value : Int)
  | real (value : Double)
  /-- Days from 1 January 1970. -/
  | date (days : Int)
  | dateTime (unit : TimeUnit) (count : Int)
  /-- Nanoseconds from midnight. -/
  | timeOfDay (nanoseconds : Int)
  | bytes (value : List UInt8)
  deriving DecidableEq, Repr

inductive IntegerWidth where
  | i8
  | i16
  | i32
  | i64
  | u8
  | u16
  | u32
  | u64
  deriving DecidableEq, Repr

namespace IntegerWidth

def name : IntegerWidth → String
  | i8 => "i8"
  | i16 => "i16"
  | i32 => "i32"
  | i64 => "i64"
  | u8 => "u8"
  | u16 => "u16"
  | u32 => "u32"
  | u64 => "u64"

def all : List IntegerWidth := [i8, i16, i32, i64, u8, u16, u32, u64]

end IntegerWidth

inductive Cells where
  | nulls (count : Nat)
  | truths (cells : List (Option Bool))
  | texts (cells : List (Option String))
  | integers (width : IntegerWidth) (cells : List (Option Int))
  | singles (cells : List (Option Double))
  | doubles (cells : List (Option Double))
  | dates (cells : List (Option Int))
  | dateTimes (unit : TimeUnit) (cells : List (Option Int))
  | timesOfDay (cells : List (Option Int))
  deriving DecidableEq, Repr

namespace Cells

def ofOptions {α : Type} (cell : α → Cell) (cells : List (Option α)) : List Cell :=
  cells.map fun value => (value.map cell).getD .null

def toList : Cells → List Cell
  | nulls count => List.replicate count .null
  | truths cells => ofOptions .truth cells
  | texts cells => ofOptions .text cells
  | integers _ cells => ofOptions .integer cells
  | singles cells => ofOptions .real cells
  | doubles cells => ofOptions .real cells
  | dates cells => ofOptions .date cells
  | dateTimes unit cells => ofOptions (.dateTime unit) cells
  | timesOfDay cells => ofOptions .timeOfDay cells

/-- The cells of a column of times. What is not the time of a day is missing. -/
def ofTimes (cells : List (Option Int)) : Cells :=
  .timesOfDay (cells.map (Option.filter DateTime.isTimeOfDay))

def typeName : Cells → String
  | nulls _ => "null"
  | truths _ => "bool"
  | texts _ => "str"
  | integers width _ => width.name
  | singles _ => "f32"
  | doubles _ => "f64"
  | dates _ => "date"
  | dateTimes .millisecond _ => "datetime[ms]"
  | dateTimes .microsecond _ => "datetime[μs]"
  | dateTimes .nanosecond _ => "datetime[ns]"
  | timesOfDay _ => "time"

example : (ofTimes [some (-1), some 0, some 86400000000000, none]).toList =
    [.null, .timeOfDay 0, .null, .null] := by decide

end Cells

structure Column where
  name : String
  cells : Cells
  deriving DecidableEq, Repr

abbrev Frame := List Column

namespace Frame

def empty : Frame := []

def column? (frame : Frame) (name : String) : Option Column :=
  frame.find? fun column => column.name == name

/-- The number of rows. A frame without columns has none. -/
def height (frame : Frame) : Nat :=
  match frame with
  | [] => 0
  | column :: _ => column.cells.toList.length

end Frame

end ChartQuery
