import ChartQuery.Number.Decimal
import ChartQuery.Proofs.Number.Rounding

/-!
# Decimals of doubles

The decimal that a double is written as is one that reads back to it: it is found by this
test, or else it is the exact value of the double, which is a decimal since a power of two
divides the same power of ten.

Main statement: `Double.toDouble_shortest`.
-/

namespace ChartQuery

open Double

namespace Decimal

/-- The magnitude of a decimal. -/
def magnitude (d : Decimal) : ℚ := d.coefficient * 10 ^ d.exponent

/-- The number of digits before the point. It is negative if zeros follow the point. -/
def size (d : Decimal) : ℤ := (Nat.toDigits 10 d.coefficient).length + d.exponent

variable {d : Decimal}

theorem ten_zpow_pos (e : ℤ) : (0 : ℚ) < 10 ^ e := zpow_pos (by norm_num) e

theorem ten_zpow_add (a b : ℤ) : (10 : ℚ) ^ (a + b) = 10 ^ a * 10 ^ b :=
  zpow_add₀ (by norm_num) a b

theorem natCast_ten_pow (n : ℕ) : ((Nat.pow 10 n : ℕ) : ℚ) = 10 ^ (n : ℤ) := by
  rw [zpow_natCast]
  exact Nat.cast_pow 10 n

theorem toDigits_bounds {n : ℕ} (h : n ≠ 0) :
    (10 : ℚ) ^ ((Nat.toDigits 10 n).length - 1 : ℤ) ≤ n ∧
      (n : ℚ) < 10 ^ ((Nat.toDigits 10 n).length : ℤ) := by
  have nonempty : 0 < (Nat.toDigits 10 n).length := Nat.length_toDigits_pos
  obtain ⟨k, length⟩ : ∃ k, (Nat.toDigits 10 n).length = k + 1 :=
    ⟨_, (Nat.sub_add_cancel nonempty).symm⟩
  have high : n < 10 ^ (k + 1) :=
    (Nat.length_toDigits_le_iff (by decide) (by omega)).1 length.le
  have low : 10 ^ k ≤ n := by
    rcases Nat.eq_zero_or_pos k with rfl | pos
    · exact Nat.pos_of_ne_zero h
    · by_contra! less
      have := (Nat.length_toDigits_le_iff (by decide) pos).2 less
      omega
  rw [length]
  constructor
  · rw [Nat.cast_add, Nat.cast_one, add_sub_cancel_right, zpow_natCast]
    exact_mod_cast low
  · rw [zpow_natCast]
    exact_mod_cast high

theorem size_bounds (h : d.coefficient ≠ 0) :
    10 ^ (d.size - 1) ≤ d.magnitude ∧ d.magnitude < 10 ^ d.size := by
  obtain ⟨low, high⟩ := toDigits_bounds h
  constructor
  · rw [size, add_sub_right_comm, ten_zpow_add]
    exact mul_le_mul_of_nonneg_right low (ten_zpow_pos _).le
  · rw [size, ten_zpow_add]
    exact mul_lt_mul_of_pos_right high (ten_zpow_pos _)

/-- A decimal that is neither beyond all doubles nor next to zero is rounded. -/
theorem toDouble_eq (h : d.coefficient ≠ 0) (low : -powerLimit ≤ d.size)
    (high : d.size ≤ powerLimit) :
    ∃ m e, Rounds .double d.magnitude m e ∧ d.toDouble = ofForm .double d.negative m e := by
  have near : ¬(d.coefficient = 0 ∨ d.size < -powerLimit) := not_or.2 ⟨h, not_lt.2 low⟩
  have between : d.toDouble =
      if d.exponent < 0 then
        .round .double d.negative d.coefficient (Nat.pow 10 (-d.exponent).toNat)
      else .round .double d.negative (d.coefficient * Nat.pow 10 d.exponent.toNat) 1 :=
    (if_neg near).trans (if_neg (not_lt.2 high))
  rw [between]
  split
  · rename_i negative
    obtain ⟨k, exponent⟩ : ∃ k : ℕ, d.exponent = -k := ⟨(-d.exponent).toNat, by omega⟩
    have nonzero : Nat.pow 10 k ≠ 0 := (Nat.pow_pos (by decide)).ne'
    have same : (d.coefficient : ℚ) / (Nat.pow 10 k : ℕ) = d.magnitude := by
      rw [magnitude, exponent, natCast_ten_pow, zpow_neg, div_eq_mul_inv]
    rw [exponent, neg_neg, Int.toNat_natCast, ← same]
    exact round_eq .double h nonzero d.negative
  · rename_i nonneg
    obtain ⟨k, exponent⟩ : ∃ k : ℕ, d.exponent = k := ⟨d.exponent.toNat, by omega⟩
    have nonzero : d.coefficient * Nat.pow 10 k ≠ 0 :=
      Nat.mul_ne_zero h (Nat.pow_pos (by decide)).ne'
    have same : ((d.coefficient * Nat.pow 10 k : ℕ) : ℚ) / (1 : ℕ) = d.magnitude := by
      rw [magnitude, exponent, Nat.cast_mul, natCast_ten_pow, Nat.cast_one, div_one]
    rw [exponent, Int.toNat_natCast, ← same]
    exact round_eq .double nonzero one_ne_zero d.negative

/-- What a decimal is read as: zero, an infinity or its rounding. -/
theorem toDouble_cases (d : Decimal) :
    d.toDouble = .finite d.negative 0 (-1074) ∨ d.toDouble = .infinite d.negative ∨
      ∃ m e, Rounds .double d.magnitude m e ∧ d.toDouble = ofForm .double d.negative m e := by
  by_cases small : d.coefficient = 0 ∨ d.size < -powerLimit
  · exact .inl (if_pos small)
  by_cases large : powerLimit < d.size
  · exact .inr (.inl ((if_neg small).trans (if_pos large)))
  · obtain ⟨nonzero, low⟩ := not_or.1 small
    exact .inr (.inr (toDouble_eq nonzero (not_lt.1 low) (not_lt.1 large)))

theorem two_zpow_le_ten (n : ℕ) : (2 : ℚ) ^ (3 * n : ℤ) ≤ 10 ^ (n : ℤ) := by
  rw [zpow_mul, zpow_natCast, zpow_natCast]
  exact pow_le_pow_left₀ (by norm_num) (by norm_num) n

/-- What is rounded to a double above zero is within the powers of ten that reading looks
at. -/
theorem size_bounded (h : d.coefficient ≠ 0) (low : (2 : ℚ) ^ (-1075 : ℤ) ≤ d.magnitude)
    (high : d.magnitude < 2 ^ (1024 : ℤ)) : -powerLimit ≤ d.size ∧ d.size ≤ powerLimit := by
  obtain ⟨below, above⟩ := size_bounds h
  have greatest : (2 : ℚ) ^ (1024 : ℤ) ≤ 10 ^ (400 : ℤ) :=
    (two_zpow_le (by decide)).trans (two_zpow_le_ten 400)
  have least : (10 : ℚ) ^ (-400 : ℤ) ≤ 2 ^ (-1075 : ℤ) := by
    rw [zpow_neg, zpow_neg]
    exact inv_anti₀ (two_zpow_pos _) ((two_zpow_le (by decide)).trans (two_zpow_le_ten 400))
  have one_lt : (1 : ℚ) < 10 := by norm_num
  have first := (zpow_lt_zpow_iff_right₀ one_lt).1 ((least.trans low).trans_lt above)
  have last := (zpow_lt_zpow_iff_right₀ one_lt).1 ((below.trans_lt high).trans_le greatest)
  simp only [powerLimit]
  omega

end Decimal

namespace Double

variable {negative : Bool} {m : ℕ} {e : ℤ} {d : Decimal} {x : Double}

/-- A finite double in its form. -/
def IsNumber : Double → Prop
  | .finite _ m e => InForm .double m e ∧ e ≤ BinaryFormat.double.greatestExponent
  | _ => False

theorem InForm.zero (h : InForm .double 0 e) : e = -1074 :=
  h.full.resolve_right (by decide)

theorem isNumber_zero (negative : Bool) : IsNumber (.finite negative 0 (-1074)) :=
  ⟨⟨by decide, le_rfl, .inl rfl⟩, by decide⟩

theorem isNumber_of_rounds {x : ℚ} (h : Rounds .double x m e)
    (finite : (ofForm .double negative m e).isFinite) : IsNumber (ofForm .double negative m e) := by
  unfold ofForm at finite ⊢
  split
  · rename_i beyond
    rw [if_pos beyond] at finite
    cases finite
  · rename_i within
    exact ⟨h.inForm (by decide), not_lt.1 within⟩

theorem isNumber_toDouble (finite : d.toDouble.isFinite) : d.toDouble.IsNumber := by
  rcases d.toDouble_cases with zero | infinite | ⟨m, e, rounds, known⟩
  · rw [zero]
    exact isNumber_zero _
  · rw [infinite] at finite
    cases finite
  · rw [known] at finite ⊢
    exact isNumber_of_rounds rounds finite

theorem isNumber_ofInt {n : ℤ} (finite : (ofInt n).isFinite) : (ofInt n).IsNumber := by
  by_cases zero : n.natAbs = 0
  · rw [ofInt, zero]
    exact isNumber_zero _
  · obtain ⟨m, e, rounds, known⟩ := round_eq .double zero one_ne_zero (n < 0)
    rw [ofInt, known] at finite ⊢
    exact isNumber_of_rounds rounds finite

theorem toDouble_eq_finite_iff (positive : m ≠ 0) (top : e ≤ 971) :
    d.toDouble = .finite d.negative m e ↔ Rounds .double d.magnitude m e := by
  constructor
  · intro read
    rcases d.toDouble_cases with zero | infinite | ⟨n, e', rounds, known⟩
    · rw [zero, Double.finite.injEq] at read
      exact absurd read.2.1.symm positive
    · rw [infinite] at read
      cases read
    · rw [known, ofForm] at read
      split at read
      · cases read
      · cases read
        exact rounds
  · intro rounds
    obtain ⟨low, high⟩ := rounds.bounds positive
    have nonzero : d.coefficient ≠ 0 := by
      intro zero
      rw [Decimal.magnitude, zero, Nat.cast_zero, zero_mul] at low
      exact absurd low (not_le.2 (two_zpow_pos _))
    have below : e + (BinaryFormat.double.precision : ℤ) ≤ 1024 := by
      change e + 53 ≤ 1024
      omega
    obtain ⟨least, greatest⟩ :=
      Decimal.size_bounded nonzero low (high.trans_le (two_zpow_le below))
    obtain ⟨n, e', rounds', known⟩ := Decimal.toDouble_eq nonzero least greatest
    obtain ⟨rfl, rfl⟩ := rounds'.eq (by decide) rounds
    exact known.trans (if_neg (not_lt.2 top))

theorem magnitude_exactDecimal (negative : Bool) (m : ℕ) (e : ℤ) :
    (exactDecimal negative m e).magnitude = magnitude m e := by
  unfold exactDecimal Decimal.magnitude magnitude
  split
  · rename_i below
    obtain ⟨k, rfl⟩ : ∃ k : ℕ, e = -k := ⟨(-e).toNat, by omega⟩
    have fives : ((Nat.pow 5 k : ℕ) : ℚ) = 5 ^ k := Nat.cast_pow 5 k
    have tens : (10 : ℚ) ^ k = 5 ^ k * 2 ^ k := by rw [← mul_pow]; norm_num
    simp only [neg_neg, Int.toNat_natCast, Nat.cast_mul, fives, zpow_neg, zpow_natCast, tens]
    field_simp
  · rename_i whole
    obtain ⟨k, rfl⟩ : ∃ k : ℕ, e = k := ⟨e.toNat, by omega⟩
    simp only [Int.toNat_natCast, natCast_shiftLeft, zpow_zero, mul_one]

/-- The decimal that a double is written as reads back to it. -/
theorem toDouble_shortest (h : InForm .double m e) (top : e ≤ 971) (negative : Bool) :
    (shortest negative m e).toDouble = .finite negative m e := by
  unfold shortest
  split
  · rename_i zero
    subst zero
    rw [h.zero]
    rfl
  · rename_i positive
    dsimp only
    generalize quotient m e = parts
    cases found : (grids parts.1 parts.2).findSome?
        (onGrid? (.finite negative m e) negative parts.1 parts.2) with
    | none =>
      have exact : (exactDecimal negative m e).negative = negative := by
        unfold exactDecimal
        split <;> rfl
      have read := (toDouble_eq_finite_iff positive top).2
        (magnitude_exactDecimal negative m e ▸ h.rounds)
      rwa [exact] at read
    | some d =>
      obtain ⟨grid, -, hit⟩ := List.exists_of_findSome?_eq_some found
      have test := List.find?_some hit
      exact eq_of_beq test

/-- A finite double is written as a decimal that reads back to it. -/
theorem IsNumber.toDouble_toDecimal (h : x.IsNumber) :
    ∃ d, x.toDecimal? = some d ∧ d.toDouble = x := by
  cases x with
  | finite negative m e => exact ⟨_, rfl, toDouble_shortest h.1 h.2 negative⟩
  | infinite | nan => exact h.elim

theorem IsNumber.isFinite (h : x.IsNumber) : x.isFinite := by
  cases x with
  | finite => rfl
  | infinite | nan => exact h.elim

end Double

end ChartQuery
