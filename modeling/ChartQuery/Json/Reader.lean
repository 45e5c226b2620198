import ChartQuery.Json.Basic

/-!
# Reading JSON text

A reader for the whole grammar. Each part takes what it can from the front of
the text and returns the rest. The recursion is bounded by the length of the
text, since every bracket takes a character.
-/

namespace ChartQuery.Json

def isBlank (c : Char) : Bool :=
  c == ' ' || c == '\t' || c == '\n' || c == '\r'

def skipBlanks (s : List Char) : List Char :=
  s.dropWhile isBlank

def hexValue? (c : Char) : Option Nat :=
  if '0' ≤ c ∧ c ≤ '9' then some (c.toNat - '0'.toNat)
  else if 'a' ≤ c ∧ c ≤ 'f' then some (c.toNat - 'a'.toNat + 10)
  else if 'A' ≤ c ∧ c ≤ 'F' then some (c.toNat - 'A'.toNat + 10)
  else none

def unit? (a b c d : Char) : Option Nat := do
  let a ← hexValue? a
  let b ← hexValue? b
  let c ← hexValue? c
  let d ← hexValue? d
  return ((a * 16 + b) * 16 + c) * 16 + d

def letterEscape? : Char → Option Char
  | '"' => some '"'
  | '\\' => some '\\'
  | '/' => some '/'
  | 'b' => some '\x08'
  | 'f' => some '\x0c'
  | 'n' => some '\n'
  | 'r' => some '\r'
  | 't' => some '\t'
  | _ => none

def isHighSurrogate (n : Nat) : Bool := 0xD800 ≤ n && n < 0xDC00

def isLowSurrogate (n : Nat) : Bool := 0xDC00 ≤ n && n < 0xE000

/-- A string after its opening quote, and the rest. A surrogate stands only in
a pair. -/
def readString : List Char → Option (List Char × List Char)
  | [] => none
  | '"' :: rest => some ([], rest)
  | '\\' :: 'u' :: a :: b :: c :: d :: rest => do
    let n ← unit? a b c d
    if isHighSurrogate n then
      match rest with
      | '\\' :: 'u' :: a :: b :: c :: d :: rest =>
        let low ← unit? a b c d
        if isLowSurrogate low then
          let (tail, rest) ← readString rest
          return (Char.ofNat (0x10000 + (n - 0xD800) * 0x400 + (low - 0xDC00)) :: tail, rest)
        else none
      | _ => none
    else if isLowSurrogate n then none
    else
      let (tail, rest) ← readString rest
      return (Char.ofNat n :: tail, rest)
  | '\\' :: c :: rest => do
    let c ← letterEscape? c
    let (tail, rest) ← readString rest
    return (c :: tail, rest)
  | c :: rest =>
    if c.toNat < 0x20 then none
    else do
      let (tail, rest) ← readString rest
      return (c :: tail, rest)

/-- The whole part of a number: a zero alone, or digits that begin with another. -/
def readWhole (s : List Char) : Option (List Char × List Char) :=
  let (digits, rest) := Text.takeAllDigits s
  match digits with
  | [] => none
  | '0' :: _ :: _ => none
  | _ => some (digits, rest)

def readFraction (s : List Char) : Option (List Char × List Char) :=
  match s with
  | '.' :: rest =>
    let (digits, rest) := Text.takeAllDigits rest
    if digits.isEmpty then none else some (digits, rest)
  | _ => some ([], s)

def readPower (s : List Char) : Option (Int × List Char) :=
  match s with
  | c :: rest =>
    if c == 'e' || c == 'E' then
      let (negative, rest) := Decimal.takeSign rest
      let (digits, rest) := Text.takeAllDigits rest
      let n : Int := Text.number digits
      if digits.isEmpty then none else some (if negative then -n else n, rest)
    else some (0, s)
  | [] => some (0, [])

/-- A number after its sign. Without a fraction and an exponent it is an integer,
except that a zero with a minus is none. -/
def readNumber (negative : Bool) (s : List Char) : Option (Json × List Char) := do
  let (whole, rest) ← readWhole s
  let (fraction, tail) ← readFraction rest
  let (power, tail) ← readPower tail
  let coefficient := Text.number (whole ++ fraction)
  if tail.length = rest.length ∧ ¬(negative ∧ coefficient = 0) then
    return (.integer (if negative then -coefficient else coefficient), tail)
  else return (.real ⟨negative, coefficient, power - fraction.length⟩, tail)

/-- The rest of a text after a word at its front. -/
def readWord (word : List Char) (s : List Char) : Option (List Char) :=
  if word.isPrefixOf s then some (s.drop word.length) else none

def readChar (c : Char) (s : List Char) : Option (List Char) :=
  match skipBlanks s with
  | d :: rest => if c = d then some rest else none
  | [] => none

mutual

/-- A value, after blanks, and the rest. -/
def readValue : Nat → List Char → Option (Json × List Char)
  | 0, _ => none
  | fuel + 1, s =>
    match skipBlanks s with
    | '"' :: rest => do
      let (text, rest) ← readString rest
      return (.string (String.ofList text), rest)
    | '[' :: rest =>
      match readChar ']' rest with
      | some rest => some (.array [], rest)
      | none => do
        let (items, rest) ← readItems fuel rest
        return (.array items, rest)
    | '{' :: rest =>
      match readChar '}' rest with
      | some rest => some (.object [], rest)
      | none => do
        let (members, rest) ← readMembers fuel rest
        return (.object members, rest)
    | '-' :: rest => readNumber true rest
    | 't' :: rest => do return (.bool true, ← readWord "rue".toList rest)
    | 'f' :: rest => do return (.bool false, ← readWord "alse".toList rest)
    | 'n' :: rest => do return (.null, ← readWord "ull".toList rest)
    | rest => readNumber false rest

def readItems : Nat → List Char → Option (List Json × List Char)
  | 0, _ => none
  | fuel + 1, s => do
    let (item, rest) ← readValue fuel s
    match readChar ',' rest with
    | some rest =>
      let (items, rest) ← readItems fuel rest
      return (item :: items, rest)
    | none => return ([item], ← readChar ']' rest)

def readMembers : Nat → List Char → Option (List (String × Json) × List Char)
  | 0, _ => none
  | fuel + 1, s => do
    let (name, rest) ← readString (← readChar '"' s)
    let (value, rest) ← readValue fuel (← readChar ':' rest)
    let member := (String.ofList name, value)
    match readChar ',' rest with
    | some rest =>
      let (members, rest) ← readMembers fuel rest
      return (member :: members, rest)
    | none => return ([member], ← readChar '}' rest)

end

/-- The value that a whole text denotes. -/
def ofText? (s : String) : Option Json := do
  let (value, rest) ← readValue (s.length + 1) s.toList
  if skipBlanks rest = [] then some value else none

end ChartQuery.Json
