/-!
# Decimal digits

Numbers are written with core's `Nat.toDigits` and read with its
`Nat.ofDigitChars`. Here are the two forms that texts need besides: a number
of a fixed width, and the digits that a text begins with.
-/

namespace ChartQuery.Text

/-- A number in decimal, with zeros in front up to `width` digits. -/
def padded (width n : Nat) : List Char :=
  let digits := Nat.toDigits 10 n
  List.replicate (width - digits.length) '0' ++ digits

/-- The digits that a text begins with, at most `most` of them, and the rest. -/
def takeDigits (most : Nat) (s : List Char) : List Char × List Char :=
  let digits := (s.takeWhile Char.isDigit).take most
  (digits, s.drop digits.length)

def takeAllDigits (s : List Char) : List Char × List Char :=
  (s.takeWhile Char.isDigit, s.dropWhile Char.isDigit)

def number (digits : List Char) : Nat :=
  Nat.ofDigitChars 10 digits 0

theorem number_padded (width n : Nat) : number (padded width n) = n := by
  simp [number, padded, Nat.ofDigitChars_append, Nat.ofDigitChars_replicate_zero]

end ChartQuery.Text
