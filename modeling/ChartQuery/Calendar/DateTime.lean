import ChartQuery.Calendar.Date
import ChartQuery.Text.Digits

/-!
# Dates with times

A time without a zone: a day, a second of the day and a nanosecond. Within a
leap second the nanosecond counts on from a thousand million, so that the
second itself keeps its number.

Times are counted from the beginning of 1970, in units of a thousandth, a
millionth or a thousand-millionth of a second, and a count is exact on both
sides of that moment.
-/

namespace ChartQuery

structure DateTime where
  /-- Days from 1 January 1970. -/
  day : Int
  /-- The second of the day. -/
  second : Nat
  /-- The nanosecond of the second, or of the leap second after it. -/
  nanosecond : Nat
  deriving DecidableEq, Repr

inductive TimeUnit where
  | millisecond
  | microsecond
  | nanosecond
  deriving DecidableEq, Repr

namespace TimeUnit

def nanoseconds : TimeUnit → Int
  | millisecond => 1000000
  | microsecond => 1000
  | nanosecond => 1

end TimeUnit

namespace DateTime

def secondsPerDay : Int := 86400

def nanosecondsPerSecond : Int := 1000000000

/-- A time that the calendar has. Only the last second of a minute can be
followed by a leap second. -/
def IsValid (t : DateTime) : Prop :=
  Date.InRange t.day ∧ t.second < 86400 ∧
    (t.nanosecond < 1000000000 ∨ t.nanosecond < 2000000000 ∧ t.second % 60 = 59)

def inRange? (t : DateTime) : Option DateTime :=
  if Date.InRange t.day then some t else none

def ofNanoseconds (n : Int) : DateTime :=
  let seconds := n / nanosecondsPerSecond
  { day := seconds / secondsPerDay
    second := (seconds % secondsPerDay).toNat
    nanosecond := (n % nanosecondsPerSecond).toNat }

/-- The time that is `count` units after the beginning of 1970. -/
def ofCount? (unit : TimeUnit) (count : Int) : Option DateTime :=
  (ofNanoseconds (count * unit.nanoseconds)).inRange?

def ofDay? (day : Int) : Option DateTime :=
  (DateTime.mk day 0 0).inRange?

def isTimeOfDay (n : Int) : Bool :=
  0 ≤ n && n < secondsPerDay * nanosecondsPerSecond

/-- The time of day at a number of nanoseconds after midnight, on the first day
of 1970. -/
def ofTimeOfDay? (n : Int) : Option DateTime :=
  if isTimeOfDay n then some (ofNanoseconds n) else none

def minusSeconds? (t : DateTime) (seconds : Int) : Option DateTime :=
  let total : Int := t.second - seconds
  inRange?
    { day := t.day + total / secondsPerDay
      second := (total % secondsPerDay).toNat
      nanosecond := t.nanosecond }

def date (t : DateTime) : Date := Date.ofDays t.day

/-- A year of four digits, or with a sign and at least four digits if it has
more or is negative. -/
def yearText (year : Int) : List Char :=
  if 0 ≤ year ∧ year ≤ 9999 then Text.padded 4 year.toNat
  else (if year < 0 then '-' else '+') :: Text.padded 4 year.natAbs

def dateText (date : Date) : List Char :=
  yearText date.year ++ '-' :: (Text.padded 2 date.month ++ '-' :: Text.padded 2 date.day)

/-- Hours, minutes and seconds. A leap second is the sixtieth of its minute. -/
def timeText (t : DateTime) : List Char :=
  Text.padded 2 (t.second / 3600) ++ ':' :: (Text.padded 2 (t.second / 60 % 60) ++
    ':' :: Text.padded 2 (t.second % 60 + t.nanosecond / 1000000000))

/-- The time with `places` digits of the second's fraction, the rest cut off. -/
def text (places : Nat) (t : DateTime) : String :=
  let fraction := t.nanosecond % 1000000000 / Nat.pow 10 (9 - places)
  String.ofList <|
    dateText t.date ++ 'T' :: (t.timeText ++
      if places = 0 then [] else '.' :: Text.padded places fraction)

example : (DateTime.mk 0 0 0).text 3 = "1970-01-01T00:00:00.000" := by decide +kernel
example : (DateTime.mk (-719529) 86399 1999000000).text 3 = "-0001-12-31T23:59:60.999" := by
  decide +kernel

end DateTime

end ChartQuery
