import ChartQuery.Json.Basic

/-!
# JSON text

The compact text of a JSON value. It is one line: every character that might
be taken for the end of a line is written as an escape.
-/

namespace ChartQuery.Json

def unicodeEscape (n : Nat) : List Char :=
  let digits := Nat.toDigits 16 n
  '\\' :: 'u' :: (List.replicate (4 - digits.length) '0' ++ digits)

/-- Control characters, the two separators of lines and paragraphs, and the
byte order mark. -/
def isEscaped (c : Char) : Bool :=
  c.toNat < 0x20 || c.toNat == 0x85 || c.toNat == 0x2028 || c.toNat == 0x2029 ||
    c.toNat == 0xFEFF

def escape (c : Char) : List Char :=
  if c = '"' then ['\\', '"']
  else if c = '\\' then ['\\', '\\']
  else if isEscaped c then unicodeEscape c.toNat
  else [c]

def stringText (s : String) : String :=
  String.ofList ('"' :: s.toList.flatMap escape ++ ['"'])

/-- A decimal with its exponent, which marks it as no integer. -/
def decimalText (d : Decimal) : String :=
  (if d.negative then "-" else "") ++ toString d.coefficient ++ "e" ++ toString d.exponent

mutual

def text : Json → String
  | .null => "null"
  | .bool b => if b then "true" else "false"
  | .integer n => toString n
  | .real d => decimalText d
  | .string s => stringText s
  | .array items => "[" ++ String.intercalate "," (itemTexts items) ++ "]"
  | .object members => "\x7b" ++ String.intercalate "," (memberTexts members) ++ "\x7d"

def itemTexts : List Json → List String
  | [] => []
  | item :: rest => item.text :: itemTexts rest

def memberTexts : List (String × Json) → List String
  | [] => []
  | (name, value) :: rest => (stringText name ++ ":" ++ value.text) :: memberTexts rest

end

end ChartQuery.Json
