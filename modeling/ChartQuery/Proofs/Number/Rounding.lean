import ChartQuery.Number.Double
import Mathlib.Algebra.Order.Field.Basic
import Mathlib.Algebra.Order.Field.Power
import Mathlib.Data.Rat.Cast.Order
import Mathlib.Tactic.FieldSimp
import Mathlib.Tactic.Linarith

/-!
# Rounding to a binary format

A quotient is laid on the grid of a format: the multiples of the power of two at which its
significand has full width, or of the least power of all. The nearest point of the grid is
its rounding. So whatever is rounded has the one form in which the format has its numbers,
a number in this form is its own rounding, and rounding keeps the order.

Main statements: `round_eq`, `Rounds.inForm`, `InForm.rounds`, `Rounds.mono`.
-/

namespace ChartQuery.Double

variable {format : BinaryFormat} {x y : ℚ} {m n : ℕ} {e e' : ℤ}

def magnitude (m : ℕ) (e : ℤ) : ℚ := m * 2 ^ e

/-- The form in which a format has its numbers: the significand has full width, unless the
exponent is the least. -/
structure InForm (format : BinaryFormat) (m : ℕ) (e : ℤ) : Prop where
  fits : m < 2 ^ format.precision
  least : format.leastExponent ≤ e
  full : e = format.leastExponent ∨ 2 ^ (format.precision - 1) ≤ m

/-- The exponent at which a quotient has a significand of full width, or else the least. -/
structure IsExponent (format : BinaryFormat) (x : ℚ) (e : ℤ) : Prop where
  fits : x < 2 ^ (e + format.precision)
  least : format.leastExponent ≤ e
  full : e = format.leastExponent ∨ 2 ^ (e + format.precision - 1) ≤ x

/-- A nearest natural number, and the even one if there are two. -/
structure IsNearest (m : ℕ) (x : ℚ) : Prop where
  low : 2 * (m : ℚ) - 1 ≤ 2 * x
  high : 2 * x ≤ 2 * m + 1
  even_of_low : 2 * x = 2 * m - 1 → m % 2 = 0
  even_of_high : 2 * x = 2 * m + 1 → m % 2 = 0

/-- A number in form is the rounding of a quotient. If the significand is rounded up to a
power of two, it is a digit too wide, and the next exponent takes its place. -/
inductive Rounds (format : BinaryFormat) (x : ℚ) : ℕ → ℤ → Prop
  | plain {m : ℕ} {e : ℤ} (exponent : IsExponent format x e) (nearest : IsNearest m (x / 2 ^ e))
      (fits : m < 2 ^ format.precision) : Rounds format x m e
  | carried {e : ℤ} (exponent : IsExponent format x e)
      (nearest : IsNearest (2 ^ format.precision) (x / 2 ^ e)) :
      Rounds format x (2 ^ (format.precision - 1)) (e + 1)

section Powers

theorem two_zpow_pos (e : ℤ) : (0 : ℚ) < 2 ^ e := zpow_pos (by norm_num) e

theorem two_zpow_add (a b : ℤ) : (2 : ℚ) ^ (a + b) = 2 ^ a * 2 ^ b :=
  zpow_add₀ (by norm_num) a b

theorem two_zpow_le {a b : ℤ} (h : a ≤ b) : (2 : ℚ) ^ a ≤ 2 ^ b :=
  zpow_le_zpow_right₀ (by norm_num) h

theorem natCast_two_pow (n : ℕ) : ((2 ^ n : ℕ) : ℚ) = 2 ^ (n : ℤ) := by
  rw [zpow_natCast, Nat.cast_pow, Nat.cast_ofNat]

theorem magnitude_two_pow {p : ℕ} (wide : 0 < p) (e : ℤ) :
    magnitude (2 ^ p) e = magnitude (2 ^ (p - 1)) (e + 1) := by
  rw [magnitude, magnitude, natCast_two_pow, natCast_two_pow, ← two_zpow_add, ← two_zpow_add]
  congr 1
  omega

end Powers

section Nearest

theorem divideToEven_isNearest (num : ℕ) {den : ℕ} (hd : den ≠ 0) :
    IsNearest (divideToEven num den) ((num : ℚ) / den) := by
  have positive : (0 : ℚ) < den := by exact_mod_cast Nat.pos_of_ne_zero hd
  have small := Nat.mod_lt num (Nat.pos_of_ne_zero hd)
  have whole : (num : ℚ) = den * (num / den : ℕ) + (num % den : ℕ) := by
    exact_mod_cast (Nat.div_add_mod num den).symm
  unfold divideToEven
  generalize num / den = q at whole
  generalize num % den = r at whole small
  obtain ⟨s, part⟩ : ∃ s : ℚ, s = r / den := ⟨_, rfl⟩
  have value : (num : ℚ) / den = q + s := by
    rw [whole, part]
    field_simp
  have half : 2 * s * den = 2 * r := by
    rw [part]
    field_simp
  have nonneg : 0 ≤ s := part ▸ div_nonneg (Nat.cast_nonneg r) positive.le
  have below : s < 1 := part ▸ (div_lt_one positive).2 (by exact_mod_cast small)
  have beyond : den < 2 * r ↔ 1 < 2 * s := by
    rw [← Nat.cast_lt (α := ℚ), Nat.cast_mul, Nat.cast_ofNat, ← half]
    exact lt_mul_iff_one_lt_left positive
  have tie : 2 * r = den ↔ 2 * s = 1 := by
    rw [← Nat.cast_inj (R := ℚ), Nat.cast_mul, Nat.cast_ofNat, ← half]
    exact mul_eq_right₀ positive.ne'
  rw [value]
  dsimp only
  simp only [Bool.or_eq_true, Bool.and_eq_true, decide_eq_true_eq, beq_iff_eq, beyond, tie]
  split
  · rename_i up
    have atLeast : 1 ≤ 2 * s := up.elim le_of_lt fun h => h.1.ge
    have odd (exact : 2 * s = 1) : q % 2 = 1 := up.elim (fun h => absurd exact h.ne') And.right
    constructor <;> push_cast
    · linarith
    · linarith
    · intro exact
      have := odd (by linarith)
      omega
    · intro
      linarith
  · rename_i stay
    rw [not_or, not_lt, not_and] at stay
    constructor
    · linarith
    · linarith [stay.1]
    · intro
      linarith
    · intro exact
      have := stay.2 (by linarith)
      omega

theorem isNearest_natCast (m : ℕ) : IsNearest m (m : ℚ) where
  low := by linarith
  high := by linarith
  even_of_low h := by linarith
  even_of_high h := by linarith

theorem IsNearest.mono (hm : IsNearest m x) (hn : IsNearest n y) (le : x ≤ y) : m ≤ n := by
  by_contra! less
  have apart : (n : ℚ) + 1 ≤ m := by exact_mod_cast less
  have low := hm.low
  have high := hn.high
  have next : (m : ℚ) = n + 1 := by linarith
  have even := hm.even_of_low (by linarith)
  have even' := hn.even_of_high (by linarith)
  have : m = n + 1 := by exact_mod_cast next
  omega

end Nearest

section Exponents

variable {num den : ℕ}

theorem natCast_shiftLeft (n k : ℕ) : ((n <<< k : ℕ) : ℚ) = n * 2 ^ (k : ℤ) := by
  rw [Nat.shiftLeft_eq, Nat.cast_mul, natCast_two_pow]

theorem scale_spec (num : ℕ) (hd : den ≠ 0) (e : ℤ) :
    (scale num den e).2 ≠ 0 ∧
      ((scale num den e).1 : ℚ) / (scale num den e).2 = (num : ℚ) / den / 2 ^ e := by
  unfold scale
  split
  · rename_i negative
    obtain ⟨k, rfl⟩ : ∃ k : ℕ, e = -k := ⟨(-e).toNat, by omega⟩
    refine ⟨hd, ?_⟩
    rw [neg_neg, Int.toNat_natCast, natCast_shiftLeft, zpow_neg, div_inv_eq_mul, div_mul_eq_mul_div]
  · rename_i nonneg
    obtain ⟨k, rfl⟩ : ∃ k : ℕ, e = k := ⟨e.toNat, by omega⟩
    rw [Int.toNat_natCast]
    refine ⟨?_, by rw [natCast_shiftLeft, div_div]⟩
    rw [Nat.shiftLeft_eq]
    exact Nat.mul_ne_zero hd (Nat.two_pow_pos k).ne'

theorem IsExponent.mono (hx : IsExponent format x e) (hy : IsExponent format y e') (le : x ≤ y) :
    e ≤ e' := by
  by_contra! less
  have wide := hx.full.resolve_left (by have := hy.least; omega)
  have step : e' + format.precision ≤ e + format.precision - 1 := by omega
  exact lt_irrefl _ (((two_zpow_le step).trans (wide.trans le)).trans_lt hy.fits)

theorem IsExponent.eq (h : IsExponent format x e) (h' : IsExponent format x e') : e = e' :=
  le_antisymm (h.mono h' le_rfl) (h'.mono h le_rfl)

theorem log2_bounds (h : n ≠ 0) :
    (2 : ℚ) ^ (n.log2 : ℤ) ≤ n ∧ (n : ℚ) < 2 ^ ((n.log2 : ℤ) + 1) := by
  have low : 2 ^ n.log2 ≤ n := Nat.log2_self_le h
  have high : n < 2 ^ (n.log2 + 1) := Nat.lt_log2_self
  constructor
  · rw [← natCast_two_pow]
    exact_mod_cast low
  · exact_mod_cast high

/-- The logarithms of numerator and denominator tell that of their quotient but for one. -/
theorem quotient_bounds (hn : num ≠ 0) (hd : den ≠ 0) :
    (2 : ℚ) ^ ((num.log2 : ℤ) - den.log2 - 1) ≤ num / den ∧
      (num : ℚ) / den < 2 ^ ((num.log2 : ℤ) - den.log2 + 1) := by
  obtain ⟨numLow, numHigh⟩ := log2_bounds hn
  obtain ⟨denLow, denHigh⟩ := log2_bounds hd
  have positive : (0 : ℚ) < den := (two_zpow_pos _).trans_le denLow
  rw [le_div_iff₀ positive, div_lt_iff₀ positive]
  constructor
  · calc (2 : ℚ) ^ ((num.log2 : ℤ) - den.log2 - 1) * den
        ≤ 2 ^ ((num.log2 : ℤ) - den.log2 - 1) * 2 ^ ((den.log2 : ℤ) + 1) :=
          mul_le_mul_of_nonneg_left denHigh.le (two_zpow_pos _).le
      _ = 2 ^ (num.log2 : ℤ) := by rw [← two_zpow_add]; congr 1; omega
      _ ≤ num := numLow
  · calc (num : ℚ) < 2 ^ ((num.log2 : ℤ) + 1) := numHigh
      _ = 2 ^ ((num.log2 : ℤ) - den.log2 + 1) * 2 ^ (den.log2 : ℤ) := by
          rw [← two_zpow_add]; congr 1; omega
      _ ≤ 2 ^ ((num.log2 : ℤ) - den.log2 + 1) * den :=
          mul_le_mul_of_nonneg_left denLow (two_zpow_pos _).le

theorem exponentFor_isExponent (format : BinaryFormat) (hn : num ≠ 0) (hd : den ≠ 0) :
    IsExponent format ((num : ℚ) / den) (exponentFor format num den) := by
  obtain ⟨low, high⟩ := quotient_bounds hn hd
  unfold exponentFor
  extract_lets e
  obtain ⟨nonzero, scaled⟩ := scale_spec num hd e
  have place : (num.log2 : ℤ) - den.log2 = e + format.precision := by omega
  rw [place] at low high
  clear_value e
  generalize scale num den e = parts at nonzero scaled
  obtain ⟨n, d⟩ := parts
  dsimp only at nonzero scaled ⊢
  have narrow : n / d < 1 <<< format.precision ↔
      (num : ℚ) / den < 2 ^ (e + format.precision) := by
    rw [Nat.one_shiftLeft, Nat.div_lt_iff_lt_mul (Nat.pos_of_ne_zero nonzero),
      ← Nat.cast_lt (α := ℚ), Nat.cast_mul, natCast_two_pow,
      ← div_lt_iff₀ (by exact_mod_cast Nat.pos_of_ne_zero nonzero), scaled,
      div_lt_iff₀ (two_zpow_pos e), ← two_zpow_add, add_comm]
  obtain ⟨exponent, known, fits, full⟩ : ∃ exponent,
      (if n / d < 1 <<< format.precision then e else e + 1) = exponent ∧
      (num : ℚ) / den < 2 ^ (exponent + format.precision) ∧
      2 ^ (exponent + format.precision - 1) ≤ (num : ℚ) / den := by
    by_cases h : n / d < 1 <<< format.precision
    · exact ⟨e, if_pos h, narrow.1 h, low⟩
    · refine ⟨e + 1, if_neg h, ?_, ?_⟩
      · rwa [add_right_comm]
      · rw [add_right_comm, add_sub_cancel_right]
        exact not_lt.1 fun small => h (narrow.2 small)
  rw [known]
  refine ⟨fits.trans_le (two_zpow_le (by omega)), le_max_left .., ?_⟩
  rcases le_total exponent format.leastExponent with least | above
  · exact .inl (max_eq_left least)
  · rw [max_eq_right above]
    exact .inr full

end Exponents

section Rounding

/-- A number in form has its own exponent. -/
theorem InForm.isExponent (h : InForm format m e) : IsExponent format (magnitude m e) e where
  fits := by
    rw [magnitude, add_comm, two_zpow_add, ← natCast_two_pow]
    exact mul_lt_mul_of_pos_right (Nat.cast_lt.2 h.fits) (two_zpow_pos e)
  least := h.least
  full := h.full.imp_right fun wide => by
    have positive : 0 < format.precision := by
      by_contra! none
      have fits := h.fits
      simp only [Nat.le_zero.1 none] at fits wide
      omega
    have place : e + format.precision - 1 = ((format.precision - 1 : ℕ) : ℤ) + e := by omega
    rw [place, magnitude, two_zpow_add, ← natCast_two_pow]
    exact mul_le_mul_of_nonneg_right (Nat.cast_le.2 wide) (two_zpow_pos e).le

theorem InForm.eq_of_magnitude (hm : InForm format m e) (hn : InForm format n e')
    (same : magnitude m e = magnitude n e') : m = n ∧ e = e' := by
  obtain rfl : e = e' := hm.isExponent.eq (same ▸ hn.isExponent)
  exact ⟨Nat.cast_injective (mul_right_cancel₀ (two_zpow_pos e).ne' same), rfl⟩

/-- A number in form is its own rounding. -/
theorem InForm.rounds (h : InForm format m e) : Rounds format (magnitude m e) m e := by
  refine .plain h.isExponent ?_ h.fits
  rw [magnitude, mul_div_cancel_right₀ _ (two_zpow_pos e).ne']
  exact isNearest_natCast m

theorem IsExponent.nearest_wide (h : IsExponent format x e) (wide : 0 < format.precision)
    (nearest : IsNearest m (x / 2 ^ e)) :
    e = format.leastExponent ∨ 2 ^ (format.precision - 1) ≤ m := by
  refine h.full.imp_right fun full => (isNearest_natCast _).mono nearest ?_
  have place : ((format.precision - 1 : ℕ) : ℤ) = e + format.precision - 1 - e := by omega
  rwa [natCast_two_pow, le_div_iff₀ (two_zpow_pos e), ← two_zpow_add, place, sub_add_cancel]

theorem IsExponent.nearest_le (h : IsExponent format x e) (nearest : IsNearest m (x / 2 ^ e)) :
    m ≤ 2 ^ format.precision := by
  refine nearest.mono (isNearest_natCast _) ?_
  rw [natCast_two_pow, div_le_iff₀ (two_zpow_pos e), ← two_zpow_add, add_comm]
  exact h.fits.le

theorem Rounds.inForm (wide : 0 < format.precision) (h : Rounds format x m e) :
    InForm format m e := by
  cases h with
  | plain exponent nearest fits => exact ⟨fits, exponent.least, exponent.nearest_wide wide nearest⟩
  | carried exponent nearest =>
    refine ⟨Nat.pow_lt_pow_right (by decide) (by omega), ?_, .inr le_rfl⟩
    have := exponent.least
    omega

/-- Carried or not, a rounding is the nearest point of its grid. -/
theorem Rounds.nearest (wide : 0 < format.precision) (h : Rounds format x m e) :
    ∃ n e', IsExponent format x e' ∧ IsNearest n (x / 2 ^ e') ∧
      magnitude m e = magnitude n e' := by
  cases h with
  | plain exponent nearest _ => exact ⟨_, _, exponent, nearest, rfl⟩
  | carried exponent nearest => exact ⟨_, _, exponent, nearest, (magnitude_two_pow wide _).symm⟩

/-- Rounding keeps the order. -/
theorem Rounds.mono (wide : 0 < format.precision) (hx : Rounds format x m e)
    (hy : Rounds format y n e') (le : x ≤ y) : magnitude m e ≤ magnitude n e' := by
  obtain ⟨a, f, exponent, nearest, known⟩ := hx.nearest wide
  obtain ⟨b, f', exponent', nearest', known'⟩ := hy.nearest wide
  rw [known, known']
  rcases (exponent.mono exponent' le).eq_or_lt with rfl | less
  · have order := nearest.mono nearest' ((div_le_div_iff_of_pos_right (two_zpow_pos f)).2 le)
    exact mul_le_mul_of_nonneg_right (Nat.cast_le.2 order) (two_zpow_pos f).le
  · have full := (exponent'.nearest_wide wide nearest').resolve_left
      (by have := exponent.least; omega)
    calc magnitude a f ≤ magnitude (2 ^ format.precision) f :=
          mul_le_mul_of_nonneg_right (Nat.cast_le.2 (exponent.nearest_le nearest))
            (two_zpow_pos f).le
      _ = magnitude (2 ^ (format.precision - 1)) (f + 1) := magnitude_two_pow wide f
      _ ≤ magnitude (2 ^ (format.precision - 1)) f' :=
          mul_le_mul_of_nonneg_left (two_zpow_le less) (Nat.cast_nonneg _)
      _ ≤ magnitude b f' :=
          mul_le_mul_of_nonneg_right (Nat.cast_le.2 full) (two_zpow_pos f').le

theorem Rounds.eq (wide : 0 < format.precision) (hm : Rounds format x m e)
    (hn : Rounds format x n e') : m = n ∧ e = e' :=
  (hm.inForm wide).eq_of_magnitude (hn.inForm wide)
    (le_antisymm (hm.mono wide hn le_rfl) (hn.mono wide hm le_rfl))

/-- What is rounded to a number above zero is at least half of the least one, and is below
the power of two that the exponent tells. -/
theorem Rounds.bounds (h : Rounds format x m e) (positive : m ≠ 0) :
    2 ^ (format.leastExponent - 1) ≤ x ∧ x < 2 ^ (e + format.precision) := by
  have half {k : ℕ} {e : ℤ} (hk : k ≠ 0) (exponent : IsExponent format x e)
      (nearest : IsNearest k (x / 2 ^ e)) : 2 ^ (format.leastExponent - 1) ≤ x := by
    have one : (1 : ℚ) ≤ k := by exact_mod_cast Nat.pos_of_ne_zero hk
    have low := nearest.low
    have step : (2 : ℚ) ^ (e - 1) = 2 ^ e / 2 := zpow_sub_one₀ (by norm_num) e
    have apart : 2 ^ e / 2 ≤ x := by
      rw [div_le_iff₀ two_pos, ← mul_comm (2 : ℚ) x, ← one_le_div (two_zpow_pos e), mul_div_assoc]
      linarith
    exact (two_zpow_le (sub_le_sub_right exponent.least 1)).trans (step ▸ apart)
  cases h with
  | plain exponent nearest _ => exact ⟨half positive exponent nearest, exponent.fits⟩
  | carried exponent nearest =>
    refine ⟨half (Nat.two_pow_pos _).ne' exponent nearest, exponent.fits.trans_le ?_⟩
    exact two_zpow_le (by omega)

/-- Rounding takes away no more than a third. -/
theorem Rounds.le (wide : 0 < format.precision) (h : Rounds format x m e) (positive : m ≠ 0) :
    2 * x ≤ 3 * magnitude m e := by
  obtain ⟨n, e', exponent, nearest, known⟩ := h.nearest wide
  have unit := two_zpow_pos e'
  have one : (1 : ℚ) ≤ n := by
    have above : 0 < magnitude m e :=
      mul_pos (Nat.cast_pos.2 (Nat.pos_of_ne_zero positive)) (two_zpow_pos e)
    rw [known, magnitude, mul_pos_iff_of_pos_right unit] at above
    exact_mod_cast above
  have high := mul_le_mul_of_nonneg_right nearest.high unit.le
  rw [mul_assoc, div_mul_cancel₀ _ unit.ne'] at high
  rw [known, magnitude]
  linarith [mul_le_mul_of_nonneg_right one unit.le]

/-- A finite number, or an infinity if its exponent is beyond the format. -/
def ofForm (format : BinaryFormat) (negative : Bool) (m : ℕ) (e : ℤ) : Double :=
  if format.greatestExponent < e then .infinite negative else .finite negative m e

theorem round_eq (format : BinaryFormat) {num den : ℕ} (hn : num ≠ 0) (hd : den ≠ 0)
    (negative : Bool) :
    ∃ m e, Rounds format ((num : ℚ) / den) m e ∧
      round format negative num den = ofForm format negative m e := by
  have exponent := exponentFor_isExponent format hn hd
  unfold round
  rw [if_neg hn]
  dsimp only
  generalize exponentFor format num den = e at exponent
  obtain ⟨nonzero, scaled⟩ := scale_spec num hd e
  generalize scale num den e = parts at nonzero scaled
  obtain ⟨n, d⟩ := parts
  dsimp only at nonzero scaled ⊢
  have nearest := divideToEven_isNearest n nonzero
  rw [scaled] at nearest
  generalize divideToEven n d = m at nearest
  simp only [Nat.one_shiftLeft]
  by_cases top : m = 2 ^ format.precision
  · subst top
    exact ⟨_, _, .carried exponent nearest, by rw [if_pos rfl]; rfl⟩
  · have fits := lt_of_le_of_ne (exponent.nearest_le nearest) top
    exact ⟨_, _, .plain exponent nearest fits, by rw [if_neg top]; rfl⟩

end Rounding

end ChartQuery.Double
