/-!
# White space

A text is trimmed, and cut into words, at the characters that have the
Unicode property `White_Space`. There are twenty-five of them; the zero-width
space and the byte order mark are not among them.
-/

namespace ChartQuery.Text

/-- The Unicode property `White_Space`. -/
def isSpace (c : Char) : Bool :=
  let n := c.toNat
  (0x09 ≤ n && n ≤ 0x0D) || n == 0x20 || n == 0x85 || n == 0xA0 || n == 0x1680 ||
    (0x2000 ≤ n && n ≤ 0x200A) || n == 0x2028 || n == 0x2029 || n == 0x202F ||
    n == 0x205F || n == 0x3000

def dropStart (p : Char → Bool) (s : List Char) : List Char :=
  s.dropWhile p

def dropEnd (p : Char → Bool) (s : List Char) : List Char :=
  (s.reverse.dropWhile p).reverse

def trim (s : String) : String :=
  String.ofList (dropEnd isSpace (dropStart isSpace s.toList))

def isBlank (s : String) : Bool :=
  s.toList.all isSpace

/-- The non-empty pieces between the characters in `p`. -/
def pieces (p : Char → Bool) (s : List Char) : List (List Char) :=
  (s.splitOnP p).filter fun piece => !piece.isEmpty

def words (s : List Char) : List (List Char) :=
  pieces isSpace s

theorem toNat_of_isDigit {c : Char} (h : c.isDigit) : 48 ≤ c.toNat ∧ c.toNat ≤ 57 := by
  simp only [Char.isDigit, Bool.and_eq_true, decide_eq_true_eq] at h
  exact h

theorem isSpace_of_isDigit {c : Char} (h : c.isDigit) : isSpace c = false := by
  have bounds := toNat_of_isDigit h
  simp [isSpace]
  omega

example : ((List.range 0x100).filter fun n => isSpace (Char.ofNat n)).length = 8 := by
  decide +kernel

example : ((List.range' 0x2000 0x60).filter fun n => isSpace (Char.ofNat n)).length = 15 := by
  decide +kernel

end ChartQuery.Text
