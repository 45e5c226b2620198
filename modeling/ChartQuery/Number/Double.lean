/-!
# Double-precision numbers

A double is a sign, a significand and a power of two, or an infinity, or not a
number. All arithmetic on significands is exact arithmetic of naturals: the
only operation that loses anything is `Double.round`, which takes a quotient
to the nearest number of a binary format, a tie going to the even significand.
-/

namespace ChartQuery

/-- A binary floating-point format. Its finite numbers are `m * 2 ^ e` with
`m < 2 ^ precision` and `leastExponent ≤ e ≤ greatestExponent`. -/
structure BinaryFormat where
  precision : Nat
  leastExponent : Int
  greatestExponent : Int

namespace BinaryFormat

def double : BinaryFormat := ⟨53, -1074, 971⟩

def single : BinaryFormat := ⟨24, -149, 104⟩

end BinaryFormat

/-- A double-precision number. The finite ones are `significand * 2 ^ exponent`
with a sign, so that there are two zeros. -/
inductive Double where
  | finite (negative : Bool) (significand : Nat) (exponent : Int)
  | infinite (negative : Bool)
  | nan
  deriving DecidableEq, Repr, Inhabited

namespace Double

/-- A quotient rounded to the nearest integer, a half to the even neighbour. -/
def divideToEven (num den : Nat) : Nat :=
  let q := num / den
  let r := num % den
  if den < 2 * r || (2 * r == den && q % 2 == 1) then q + 1 else q

def scale (num den : Nat) (e : Int) : Nat × Nat :=
  if e < 0 then (num <<< (-e).toNat, den) else (num, den <<< e.toNat)

/-- The exponent at which `num / den` has a significand of full width, or the
least exponent of the format if that is larger. -/
def exponentFor (format : BinaryFormat) (num den : Nat) : Int :=
  let e : Int := (num.log2 : Int) - den.log2 - format.precision
  let (n, d) := scale num den e
  max format.leastExponent (if n / d < 1 <<< format.precision then e else e + 1)

/-- The number of a format nearest to `num / den`, with the given sign. A
quotient beyond the largest number is infinite. -/
def round (format : BinaryFormat) (negative : Bool) (num den : Nat) : Double :=
  if num = 0 then .finite negative 0 format.leastExponent
  else
    let e := exponentFor format num den
    let (n, d) := scale num den e
    let m := divideToEven n d
    let (m, e) := if m = 1 <<< format.precision then (1 <<< (format.precision - 1), e + 1) else (m, e)
    if format.greatestExponent < e then .infinite negative else .finite negative m e

def ofInt (n : Int) : Double :=
  round .double (n < 0) n.natAbs 1

def quotient (significand : Nat) (exponent : Int) : Nat × Nat :=
  if exponent < 0 then (significand, 1 <<< (-exponent).toNat)
  else (significand <<< exponent.toNat, 1)

def toSingle : Double → Double
  | .finite negative m e =>
    let (num, den) := quotient m e
    match round .single negative num den with
    | .finite negative m e =>
      let (num, den) := quotient m e
      round .double negative num den
    | other => other
  | other => other

/-- The integer part, toward zero. -/
def truncate? : Double → Option Int
  | .finite negative m e =>
    let (num, den) := quotient m e
    let n : Int := (num / den : Nat)
    some (if negative then -n else n)
  | _ => none

def isFinite : Double → Bool
  | .finite .. => true
  | _ => false

/-- The sixty-four bits of the interchange encoding. All that is not a number
has one encoding. -/
def toBits : Double → Nat
  | .finite negative m e =>
    sign negative + (e + 1074).toNat <<< 52 + m
  | .infinite negative => sign negative + 0x7FF <<< 52
  | .nan => 0x7FF8 <<< 48
where
  sign (negative : Bool) : Nat := if negative then 1 <<< 63 else 0

example : (ofInt 1).toBits = 0x3FF0000000000000 := by decide +kernel
example : (round .double false 1 10).toBits = 0x3FB999999999999A := by decide +kernel
example : (ofInt (2 ^ 53 + 1)) = ofInt (2 ^ 53) := by decide +kernel

end Double

end ChartQuery
