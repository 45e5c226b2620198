import ChartQuery.Number.Double
import ChartQuery.Text.Digits

/-!
# Decimal numbers and doubles

A decimal is an integer over a power of ten. It is what a text denotes before
any rounding, and `Decimal.toDouble` is the one rounding that reading does.
Writing goes the other way: `Double.shortest` selects, among the decimals that
read back to a double, one with the fewest digits, and of two such decimals the
nearer.
-/

namespace ChartQuery

/-- The number `coefficient * 10 ^ exponent`, with a sign. -/
structure Decimal where
  negative : Bool
  coefficient : Nat
  exponent : Int
  deriving DecidableEq, Repr

namespace Decimal

/-- A decimal at or above this power of ten is beyond every double, and one
below its inverse is closer to zero than half of the least double. -/
def powerLimit : Int := 400

def toDouble (d : Decimal) : Double :=
  let size : Int := (Nat.toDigits 10 d.coefficient).length + d.exponent
  if d.coefficient = 0 ∨ size < -powerLimit then .finite d.negative 0 (-1074)
  else if powerLimit < size then .infinite d.negative
  else if d.exponent < 0 then
    .round .double d.negative d.coefficient (Nat.pow 10 (-d.exponent).toNat)
  else .round .double d.negative (d.coefficient * Nat.pow 10 d.exponent.toNat) 1

def takeSign : List Char → Bool × List Char
  | '-' :: rest => (true, rest)
  | '+' :: rest => (false, rest)
  | rest => (false, rest)

def takeFraction : List Char → List Char × List Char
  | '.' :: rest => Text.takeAllDigits rest
  | rest => ([], rest)

def readExponent? : List Char → Option Int
  | [] => some 0
  | c :: rest =>
    if c = 'e' ∨ c = 'E' then
      let (negative, rest) := takeSign rest
      let (digits, rest) := Text.takeAllDigits rest
      if digits = [] ∨ rest ≠ [] then none
      else
        let n : Int := Text.number digits
        some (if negative then -n else n)
    else none

/-- Digits with at most one point among them, at least one digit, and an
exponent if there is one. -/
def readUnsigned? (negative : Bool) (s : List Char) : Option Decimal :=
  let (whole, rest) := Text.takeAllDigits s
  let (fraction, rest) := takeFraction rest
  if whole = [] ∧ fraction = [] then none
  else
    (readExponent? rest).map fun e =>
      ⟨negative, Text.number (whole ++ fraction), e - fraction.length⟩

/-- The text of a decimal in positional notation, without an exponent. -/
def positional (d : Decimal) : String :=
  let digits := Nat.toDigits 10 d.coefficient
  let point : Int := digits.length + d.exponent
  let body :=
    if 0 ≤ d.exponent then digits ++ List.replicate d.exponent.toNat '0'
    else if 0 < point then digits.take point.toNat ++ '.' :: digits.drop point.toNat
    else '0' :: '.' :: (List.replicate (-point).toNat '0' ++ digits)
  String.ofList (if d.negative then '-' :: body else body)

end Decimal

namespace Double

def special? (negative : Bool) (s : List Char) : Option Double :=
  let word := s.map Char.toLower
  if word = "inf".toList ∨ word = "infinity".toList then some (.infinite negative)
  else if word = "nan".toList then some .nan
  else none

/-- The double that a text denotes: an optional sign, then a decimal or the
spelling of an infinity or of a value that is not a number. -/
def ofText? (s : String) : Option Double :=
  let (negative, body) := Decimal.takeSign s.toList
  match Decimal.readUnsigned? negative body with
  | some d => some d.toDouble
  | none => special? negative body

/-- The two neighbours of a positive quotient on the grid `10 ^ e`, the nearer
one first, and the larger one first if they are equally near. -/
def neighbours (num den : Nat) (e : Int) : Nat × Nat :=
  let (n, d) :=
    if e < 0 then (num * Nat.pow 10 (-e).toNat, den) else (num, den * Nat.pow 10 e.toNat)
  let q := n / d
  if 2 * (n % d) < d then (q, q + 1) else (q + 1, q)

/-- The power of ten just above a positive quotient: the least `k` with
`num < den * 10 ^ k`, or one more than it. -/
def powerAbove (num den : Nat) : Int :=
  ((Nat.toDigits 10 num).length : Int) - (Nat.toDigits 10 den).length + 1

/-- On the grid `10 ^ e`, the neighbour of a finite double that reads back to
it, the nearer one if both do. -/
def onGrid? (x : Double) (negative : Bool) (num den : Nat) (e : Int) : Option Decimal :=
  let (near, far) := neighbours num den e
  [near, far].map (fun c => Decimal.mk negative c e) |>.find? (·.toDouble == x)

/-- The grids from coarse to fine. On the first the value has no digit before
the point, and the last has at least seventeen digits, which tell any two
doubles apart. A decimal whose last digit is zero lies on a coarser grid, so
the first hit has none at its end. -/
def grids (num den : Nat) : List Int :=
  (List.range 19).map fun (n : Nat) => powerAbove num den - n

def exactDecimal (negative : Bool) (m : Nat) (e : Int) : Decimal :=
  if e < 0 then ⟨negative, m * Nat.pow 5 (-e).toNat, e⟩ else ⟨negative, m <<< e.toNat, 0⟩

def shortest (negative : Bool) (m : Nat) (e : Int) : Decimal :=
  if m = 0 then ⟨negative, 0, 0⟩
  else
    let (num, den) := quotient m e
    ((grids num den).findSome? (onGrid? (.finite negative m e) negative num den)).getD
      (exactDecimal negative m e)

/-- The decimal that a finite double is written as. -/
def toDecimal? : Double → Option Decimal
  | .finite negative m e => some (shortest negative m e)
  | _ => none

/-- The text of a double: the shortest decimal that reads back, in positional
notation, without a fraction if it is an integer. -/
def text : Double → String
  | .infinite negative => if negative then "-inf" else "inf"
  | .nan => "NaN"
  | .finite negative m e => (shortest negative m e).positional

end Double

end ChartQuery
