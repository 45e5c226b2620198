import ChartQuery.Calendar.DateTime
import ChartQuery.Text.Space

/-!
# Reading dates and times

A text is read by the first layout that takes all of it. The first layout is
the strict one of RFC 3339, with fixed widths and an offset from universal
time; the others allow short fields, white space before a field, and a text
without an offset, without a time or without a date. What a text does not say
is taken from the first midnight of 1970.
-/

namespace ChartQuery

/-- What a text has said so far. -/
structure Reading where
  date : Date := ⟨1970, 1, 1⟩
  hour : Nat := 0
  minute : Nat := 0
  second : Nat := 0
  nanosecond : Nat := 0
  /-- Seconds by which the local time is ahead of universal time. -/
  offset : Int := 0
  deriving DecidableEq, Repr

namespace Reading

inductive Field where
  | year
  | month
  | day
  | hour
  | minute
  | second
  deriving DecidableEq, Repr

inductive Item where
  /-- A number of at most two digits, after white space. A year has up to four
  digits, and any number of digits after a sign. -/
  | number (field : Field)
  /-- Two digits, or four for a year. -/
  | digits (field : Field)
  | literal (c : Char)
  | spaces
  /-- A letter `T` of either case, or a blank. -/
  | separator
  /-- A point and digits, or nothing. Digits after the ninth do not count. -/
  | fraction
  /-- `Z`, or hours and minutes with a sign and a colon. -/
  | strictOffset
  /-- The same with white space, and with the colon or the minutes left out. -/
  | offset
  deriving DecidableEq, Repr

def set (reading : Reading) (field : Field) (n : Int) : Reading :=
  match field with
  | .year => { reading with date.year := n }
  | .month => { reading with date.month := n.toNat }
  | .day => { reading with date.day := n.toNat }
  | .hour => { reading with hour := n.toNat }
  | .minute => { reading with minute := n.toNat }
  | .second => { reading with second := n.toNat }

def readNumber? (most : Nat) (s : List Char) : Option (Nat × List Char) :=
  let (digits, rest) := Text.takeDigits most s
  if digits.isEmpty then none else some (Text.number digits, rest)

def readLong? (s : List Char) : Option (Nat × List Char) :=
  let (digits, rest) := Text.takeAllDigits s
  if digits.isEmpty then none else some (Text.number digits, rest)

def readExactly? (width : Nat) (s : List Char) : Option (Nat × List Char) :=
  let (digits, rest) := Text.takeDigits width s
  if digits.length = width then some (Text.number digits, rest) else none

def readYear? (s : List Char) : Option (Int × List Char) :=
  match s with
  | '-' :: rest => (readLong? rest).map fun (n, rest) => (-(n : Int), rest)
  | '+' :: rest => (readLong? rest).map fun (n, rest) => ((n : Int), rest)
  | _ => (readNumber? 4 s).map fun (n, rest) => ((n : Int), rest)

def readField? (field : Field) (s : List Char) : Option (Int × List Char) :=
  let s := s.dropWhile Text.isSpace
  if field = .year then readYear? s
  else (readNumber? 2 s).map fun (n, rest) => ((n : Int), rest)

def fractionValue (digits : List Char) : Nat :=
  let digits := digits.take 9
  Text.number digits * Nat.pow 10 (9 - digits.length)

/-- The sign of an offset. A minus is a hyphen or the character of that name. -/
def readSign? : List Char → Option (Bool × List Char)
  | c :: rest =>
    if c = '+' then some (false, rest)
    else if c = '-' ∨ c = '\u2212' then some (true, rest)
    else none
  | [] => none

/-- The minutes of an offset. Where they may be left out the text ends. -/
def readMinutes? (required : Bool) (s : List Char) : Option (Nat × List Char) :=
  if s.isEmpty ∧ !required then some (0, [])
  else
    match readExactly? 2 s with
    | some (n, rest) => if n < 60 then some (n, rest) else none
    | none => none

def readOffset? (strict : Bool) (s : List Char) : Option (Int × List Char) :=
  let s := if strict then s else s.dropWhile Text.isSpace
  match s with
  | 'Z' :: rest => some (0, rest)
  | 'z' :: rest => some (0, rest)
  | _ => do
    let (negative, rest) ← readSign? s
    let (hours, rest) ← readExactly? 2 rest
    let rest ←
      if strict then
        match rest with
        | ':' :: rest => some rest
        | _ => none
      else some (rest.dropWhile fun c => c == ':' || Text.isSpace c)
    let (minutes, rest) ← readMinutes? strict rest
    let seconds : Int := hours * 3600 + minutes * 60
    return (if negative then -seconds else seconds, rest)

def readItem? (reading : Reading) (item : Item) (s : List Char) : Option (Reading × List Char) :=
  match item with
  | .number field => (readField? field s).map fun (n, rest) => (reading.set field n, rest)
  | .digits field =>
    (readExactly? (if field = .year then 4 else 2) s).map fun (n, rest) =>
      (reading.set field n, rest)
  | .literal c =>
    match s with
    | d :: rest => if c = d then some (reading, rest) else none
    | [] => none
  | .spaces => some (reading, s.dropWhile Text.isSpace)
  | .separator =>
    match s with
    | c :: rest => if c = 'T' ∨ c = 't' ∨ c = ' ' then some (reading, rest) else none
    | [] => none
  | .fraction =>
    match s with
    | '.' :: rest =>
      let (digits, rest) := Text.takeAllDigits rest
      if digits.isEmpty then none
      else some ({ reading with nanosecond := fractionValue digits }, rest)
    | _ => some (reading, s)
  | .strictOffset => (readOffset? true s).map fun (n, rest) => ({ reading with offset := n }, rest)
  | .offset => (readOffset? false s).map fun (n, rest) => ({ reading with offset := n }, rest)

/-- The items of a layout, which take the whole text. -/
def readItems? (reading : Reading) : List Item → List Char → Option Reading
  | [], s => if s.isEmpty then some reading else none
  | item :: items, s =>
    match reading.readItem? item s with
    | some (reading, rest) => reading.readItems? items rest
    | none => none

/-- The time of a reading in universal time, if its parts are those of a time.
The sixtieth second of a minute is a leap second. -/
def toDateTime? (reading : Reading) : Option DateTime :=
  if reading.date.IsValid ∧ reading.hour < 24 ∧ reading.minute < 60 ∧ reading.second ≤ 60 ∧
      reading.offset.natAbs < 86400 then
    let leap := reading.second == 60
    let second := if leap then 59 else reading.second
    let t : DateTime :=
      { day := reading.date.toDays
        second := reading.hour * 3600 + reading.minute * 60 + second
        nanosecond := reading.nanosecond + if leap then 1000000000 else 0 }
    t.minusSeconds? reading.offset
  else none

def strictDate : List Item :=
  [.digits .year, .literal '-', .digits .month, .literal '-', .digits .day]

def strictTime : List Item :=
  [.digits .hour, .literal ':', .digits .minute, .literal ':', .digits .second, .fraction]

def looseDate : List Item :=
  [.number .year, .literal '-', .number .month, .literal '-', .number .day]

def hourAndMinute : List Item :=
  [.number .hour, .literal ':', .number .minute]

def looseTime : List Item :=
  hourAndMinute ++ [.literal ':', .number .second, .fraction]

def layouts : List (List Item) :=
  [strictDate ++ .separator :: strictTime ++ [.strictOffset],
    looseDate ++ .spaces :: looseTime ++ [.offset],
    looseDate ++ .literal 'T' :: looseTime,
    looseDate ++ .spaces :: looseTime,
    looseDate ++ .spaces :: hourAndMinute,
    looseDate,
    looseTime,
    hourAndMinute]

end Reading

namespace DateTime

/-- The time that a text denotes, white space around it aside. -/
def ofText? (text : String) : Option DateTime :=
  let s := (Text.trim text).toList
  Reading.layouts.findSome? fun layout =>
    (Reading.readItems? {} layout s).bind Reading.toDateTime?

end DateTime

end ChartQuery
