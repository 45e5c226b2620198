import ChartQuery.Proofs.Number.Decimals

/-!
# How whole numbers are written

A double that is a whole number is written with as many zeros at its end as any whole number
that is rounded to it has. Among those with so many zeros it is a nearest one, and the larger
one if two are equally near. The grids of powers of ten are tried from coarse to fine, the
numbers that are rounded to one double lie side by side, and so a neighbour of the double on
a grid is among them if any point of the grid is.

Main statement: `shortest_eq`.
-/

namespace ChartQuery.Double

variable {negative : Bool} {m v n k : ℕ} {e : ℤ} {den : ℕ}

/-- A natural number is rounded to a double. -/
def Reads (m : ℕ) (e : ℤ) (n : ℕ) : Prop := Rounds .double n m e

/-- A double above zero is a whole number. -/
structure IsWhole (m : ℕ) (e : ℤ) (v : ℕ) : Prop where
  inForm : InForm .double m e
  top : e ≤ 971
  positive : m ≠ 0
  value : magnitude m e = v

theorem exists_reads (positive : n ≠ 0) : ∃ m e, Reads m e n := by
  obtain ⟨m, e, rounds, -⟩ := round_eq .double positive one_ne_zero false
  rw [Nat.cast_one, div_one] at rounds
  exact ⟨m, e, rounds⟩

/-- Zero is rounded to no other double than zero. -/
theorem Reads.ne_zero (h : Reads m e n) (positive : m ≠ 0) : n ≠ 0 := by
  rintro rfl
  have low := (two_zpow_pos _).trans_le (h.bounds positive).1
  rw [Nat.cast_zero] at low
  exact lt_irrefl _ low

/-- The numbers that are rounded to one double lie side by side. -/
theorem Reads.between {a b : ℕ} (ha : Reads m e a) (hb : Reads m e b) (low : a ≤ n) (high : n ≤ b) :
    Reads m e n := by
  rcases Nat.eq_zero_or_pos n with rfl | positive
  · rwa [Nat.le_zero.1 low] at ha
  · obtain ⟨m', e', reads⟩ := exists_reads positive.ne'
    have below := ha.mono (by decide) reads (Nat.cast_le.2 low)
    have above := reads.mono (by decide) hb (Nat.cast_le.2 high)
    obtain ⟨rfl, rfl⟩ := (ha.inForm (by decide)).eq_of_magnitude (reads.inForm (by decide))
      (le_antisymm below above)
    exact reads

namespace IsWhole

variable (h : IsWhole m e v)
include h

theorem reads : Reads m e v := by
  have rounds := h.inForm.rounds
  rwa [h.value] at rounds

theorem one_le : 1 ≤ v := by
  have above : (0 : ℚ) < v :=
    h.value ▸ mul_pos (Nat.cast_pos.2 (Nat.pos_of_ne_zero h.positive)) (two_zpow_pos e)
  exact_mod_cast above

theorem lt : (v : ℚ) < 2 ^ (e + 53) := h.value ▸ h.inForm.isExponent.fits

theorem reads_above (low : v ≤ n) (high : (n : ℚ) < v + 2 ^ (e - 1)) : Reads m e n := by
  have atLeast : (v : ℚ) ≤ n := Nat.cast_le.2 low
  have step : (2 : ℚ) ^ (e - 1) = 2 ^ e / 2 := zpow_sub_one₀ (by norm_num) e
  have unit := two_zpow_pos e
  have point := h.value
  rw [magnitude] at point
  have next : (v : ℚ) + 2 ^ e ≤ 2 ^ (e + 53) := by
    have fits : ((m + 1 : ℕ) : ℚ) ≤ (2 ^ 53 : ℕ) := Nat.cast_le.2 h.inForm.fits
    rw [natCast_two_pow, Nat.cast_add, Nat.cast_one, Nat.cast_ofNat] at fits
    have scaled := mul_le_mul_of_nonneg_right fits unit.le
    rw [add_comm e, two_zpow_add]
    linarith
  have lowEnd : (m : ℚ) ≤ n / 2 ^ e := by
    rw [le_div_iff₀ unit]
    linarith
  have highEnd : (n : ℚ) / 2 ^ e < m + 1 / 2 := by
    rw [div_lt_iff₀ unit]
    linarith
  refine .plain ⟨?_, h.inForm.least, ?_⟩ ⟨?_, ?_, ?_, ?_⟩ h.inForm.fits
  · change (n : ℚ) < 2 ^ (e + 53)
    linarith
  · exact h.inForm.isExponent.full.imp_right fun full => full.trans (h.value ▸ atLeast)
  · linarith
  · linarith
  · intro
    linarith
  · intro
    linarith

end IsWhole

section Grids

theorem neighbours_eq (positive : den ≠ 0) (v k : ℕ) :
    neighbours (v * den) den k =
      if 2 * (v % 10 ^ k) < 10 ^ k then (v / 10 ^ k, v / 10 ^ k + 1)
      else (v / 10 ^ k + 1, v / 10 ^ k) := by
  have pos := Nat.pos_of_ne_zero positive
  have part : 2 * (v % 10 ^ k * den) < 10 ^ k * den ↔ 2 * (v % 10 ^ k) < 10 ^ k := by
    rw [← Nat.mul_assoc]
    exact Nat.mul_lt_mul_right pos
  have natural : ¬((k : ℤ) < 0) := by omega
  have power : Nat.pow 10 k = 10 ^ k := rfl
  unfold neighbours
  simp only [if_neg natural, Int.toNat_natCast, power, Nat.mul_comm den (10 ^ k),
    Nat.mul_div_mul_right _ _ pos, Nat.mul_mod_mul_right, part]

/-- A nearest point of those that are tried, and the larger one of two. -/
def IsCloser (v n a : ℕ) : Prop :=
  (n - v : ℤ).natAbs ≤ (a - v : ℤ).natAbs ∧
    ((n - v : ℤ).natAbs = (a - v : ℤ).natAbs → a ≤ n)

theorem toDouble_eq_iff_reads (h : IsWhole m e v) (negative : Bool) (c k : ℕ) :
    (Decimal.mk negative c k).toDouble = .finite negative m e ↔ Reads m e (c * 10 ^ k) := by
  have value : Decimal.magnitude ⟨negative, c, k⟩ = ((c * 10 ^ k : ℕ) : ℚ) := by
    simp only [Decimal.magnitude, zpow_natCast, Nat.cast_mul, Nat.cast_pow, Nat.cast_ofNat]
  have read := toDouble_eq_finite_iff (d := ⟨negative, c, k⟩) h.positive h.top
  rwa [value] at read

section Neighbours

variable {q r t a : ℕ} (whole : q * t + r = v)
include whole

theorem isCloser_below (le : a ≤ q) : IsCloser v (q * t) (a * t) := by
  have := Nat.mul_le_mul_right t le
  constructor <;> omega

theorem isCloser_above (small : r < t) (le : q + 1 ≤ a) :
    IsCloser v ((q + 1) * t) (a * t) := by
  have := Nat.mul_le_mul_right t le
  rw [Nat.succ_mul] at *
  constructor <;> omega

/-- The neighbour below, if it is nearer than the one above. -/
theorem isCloser_near_below (half : 2 * r < t) (a : ℕ) : IsCloser v (q * t) (a * t) := by
  rcases Nat.lt_or_ge q a with le | le
  · have := Nat.mul_le_mul_right t le
    rw [Nat.succ_mul] at this
    constructor <;> omega
  · exact isCloser_below whole le

/-- The neighbour above, unless the one below is nearer. -/
theorem isCloser_near_above (small : r < t) (half : t ≤ 2 * r) (a : ℕ) :
    IsCloser v ((q + 1) * t) (a * t) := by
  rcases Nat.lt_or_ge q a with le | le
  · exact isCloser_above whole small le
  · have := Nat.mul_le_mul_right t le
    rw [Nat.succ_mul]
    constructor <;> omega

end Neighbours

open Classical in
theorem find?_reads (h : IsWhole m e v) (negative : Bool) (near far k : ℕ) :
    ([near, far].map fun c => Decimal.mk negative c k).find?
        (·.toDouble == .finite negative m e) =
      if Reads m e (near * 10 ^ k) then some ⟨negative, near, k⟩
      else if Reads m e (far * 10 ^ k) then some ⟨negative, far, k⟩ else none := by
  have test (c : ℕ) : ((Decimal.mk negative c k).toDouble == .finite negative m e) =
      decide (Reads m e (c * 10 ^ k)) := by
    rw [Bool.eq_iff_iff, beq_iff_eq, toDouble_eq_iff_reads h, decide_eq_true_iff]
  simp only [List.map_cons, List.map_nil, List.find?_cons, List.find?_nil, test]
  by_cases Reads m e (near * 10 ^ k) <;> by_cases Reads m e (far * 10 ^ k) <;> simp [*]

/-- On a grid the neighbour is taken that is the closest of all points of the grid that are
rounded to the double. -/
theorem onGrid?_spec (h : IsWhole m e v) (positive : den ≠ 0) (negative : Bool) (k : ℕ) :
    (∃ c, onGrid? (.finite negative m e) negative (v * den) den k = some ⟨negative, c, k⟩ ∧
      Reads m e (c * 10 ^ k) ∧
      ∀ a, Reads m e (a * 10 ^ k) → IsCloser v (c * 10 ^ k) (a * 10 ^ k)) ∨
    onGrid? (.finite negative m e) negative (v * den) den k = none ∧
      ∀ a, ¬Reads m e (a * 10 ^ k) := by
  have whole := Nat.div_add_mod' v (10 ^ k)
  have small := Nat.mod_lt v (Nat.pow_pos (n := k) (by decide : 0 < 10))
  unfold onGrid?
  rw [neighbours_eq positive]
  have upTo : v ≤ (v / 10 ^ k + 1) * 10 ^ k := by
    rw [Nat.succ_mul]
    omega
  have above {a : ℕ} (none : ¬Reads m e (v / 10 ^ k * 10 ^ k)) (reads : Reads m e (a * 10 ^ k)) :
      v / 10 ^ k + 1 ≤ a := by
    refine Nat.lt_of_not_le fun le => none ?_
    exact reads.between h.reads (Nat.mul_le_mul_right _ le) (by omega)
  have below {a : ℕ} (none : ¬Reads m e ((v / 10 ^ k + 1) * 10 ^ k))
      (reads : Reads m e (a * 10 ^ k)) : a ≤ v / 10 ^ k := by
    refine Nat.le_of_not_lt fun le => none ?_
    exact h.reads.between reads upTo (Nat.mul_le_mul_right _ le)
  by_cases half : 2 * (v % 10 ^ k) < 10 ^ k
  · rw [if_pos half]
    dsimp only
    rw [find?_reads h]
    split
    · rename_i near
      exact .inl ⟨_, rfl, near, fun a _ => isCloser_near_below whole half a⟩
    rename_i notNear
    split
    · rename_i far
      exact .inl ⟨_, rfl, far, fun a reads => isCloser_above whole small (above notNear reads)⟩
    · rename_i notFar
      refine .inr ⟨rfl, fun a reads => ?_⟩
      have := above notNear reads
      have := below notFar reads
      omega
  · rw [if_neg half]
    dsimp only
    rw [find?_reads h]
    split
    · rename_i near
      exact .inl ⟨_, rfl, near, fun a _ => isCloser_near_above whole small (not_lt.1 half) a⟩
    rename_i notNear
    split
    · rename_i far
      exact .inl ⟨_, rfl, far, fun a reads => isCloser_below whole (below notNear reads)⟩
    · rename_i notFar
      refine .inr ⟨rfl, fun a reads => ?_⟩
      have := above notFar reads
      have := below notNear reads
      omega

end Grids

section Search

/-- As a quotient a whole number has its denominator in its numerator. Only a number below
the full width has another than one. -/
theorem quotient_eq (h : IsWhole m e v) :
    ∃ den, den ≠ 0 ∧ quotient m e = (v * den, den) ∧ (0 ≤ e → den = 1) := by
  have value := h.value
  unfold quotient
  rw [magnitude] at value
  split
  · rename_i negative
    obtain ⟨k, rfl⟩ : ∃ k : ℕ, e = -k := ⟨(-e).toNat, by omega⟩
    rw [zpow_neg, ← div_eq_mul_inv, div_eq_iff (two_zpow_pos _).ne', ← natCast_two_pow] at value
    refine ⟨2 ^ k, (Nat.two_pow_pos k).ne', ?_, by omega⟩
    rw [neg_neg, Int.toNat_natCast, Nat.one_shiftLeft]
    exact congrArg (·, 2 ^ k) (by exact_mod_cast value)
  · rename_i natural
    obtain ⟨k, rfl⟩ : ∃ k : ℕ, e = k := ⟨e.toNat, by omega⟩
    refine ⟨1, one_ne_zero, ?_, fun _ => rfl⟩
    rw [← natCast_two_pow] at value
    rw [Int.toNat_natCast, Nat.shiftLeft_eq, Nat.mul_one]
    exact congrArg (·, 1) (by exact_mod_cast value)

theorem powerAbove_bounds (hv : v ≠ 0) (hd : den ≠ 0) :
    (v : ℚ) < 10 ^ powerAbove (v * den) den ∧ 10 ^ (powerAbove (v * den) den - 2) ≤ (v : ℚ) ∧
      (den = 1 → 10 ^ (powerAbove (v * den) den - 1) ≤ (v : ℚ)) := by
  obtain ⟨numLow, numHigh⟩ := Decimal.toDigits_bounds (Nat.mul_ne_zero hv hd)
  obtain ⟨denLow, denHigh⟩ := Decimal.toDigits_bounds hd
  have nonneg : (0 : ℚ) ≤ v := Nat.cast_nonneg v
  rw [Nat.cast_mul] at numLow numHigh
  refine ⟨?_, ?_, ?_⟩
  · have bound := (mul_le_mul_of_nonneg_left denLow nonneg).trans_lt numHigh
    rw [← lt_div_iff₀ (Decimal.ten_zpow_pos _), ← zpow_sub₀ (by norm_num)] at bound
    refine bound.trans_eq (congrArg _ ?_)
    rw [powerAbove]
    omega
  · have bound := numLow.trans (mul_le_mul_of_nonneg_left denHigh.le nonneg)
    rw [← div_le_iff₀ (Decimal.ten_zpow_pos _), ← zpow_sub₀ (by norm_num)] at bound
    refine (congrArg _ ?_).trans_le bound
    rw [powerAbove]
    omega
  · rintro rfl
    have one : (Nat.toDigits 10 1).length = 1 := rfl
    simp only [Nat.cast_one, mul_one] at numLow ⊢
    refine (congrArg _ ?_).trans_le numLow
    rw [powerAbove, one]
    omega

/-- Some point of the grids that are tried is rounded to the double: the double itself, or,
if it is too large for a grid of ones, the point above it on the finest grid. -/
theorem exists_hit (h : IsWhole m e v) (hd : den ≠ 0) (one : 0 ≤ e → den = 1) :
    ∃ i a k : ℕ, i < 19 ∧ powerAbove (v * den) den - i = k ∧ Reads m e (a * 10 ^ k) := by
  have positive : v ≠ 0 := Nat.pos_iff_ne_zero.1 h.one_le
  obtain ⟨above, below, close⟩ := powerAbove_bounds positive hd
  generalize powerAbove (v * den) den = p at *
  have one_lt : (1 : ℚ) < 10 := by norm_num
  have atLeast : 0 ≤ p := by
    have first : (1 : ℚ) ≤ v := by exact_mod_cast h.one_le
    have := (zpow_lt_zpow_iff_right₀ (a := (10 : ℚ)) (m := 0) one_lt).1
      (by simpa using first.trans_lt above)
    omega
  rcases Int.lt_or_le p 19 with small | large
  · exact ⟨p.toNat, v, 0, by omega, by omega, by simpa using h.reads⟩
  · obtain ⟨k, grid⟩ : ∃ k : ℕ, p = k + 18 := ⟨(p - 18).toNat, by omega⟩
    subst grid
    have natural : 0 ≤ e := by
      by_contra! negative
      have narrow : (2 : ℚ) ^ (e + 53) ≤ 2 ^ (52 : ℤ) := two_zpow_le (by omega)
      have wide : (10 : ℚ) ^ (16 : ℤ) ≤ 10 ^ ((k : ℤ) + 18 - 2) :=
        zpow_le_zpow_right₀ one_lt.le (by omega)
      have apart : (2 : ℚ) ^ (52 : ℤ) < 10 ^ (16 : ℤ) := by norm_num
      exact lt_irrefl _ ((h.lt.trans_le narrow).trans (apart.trans_le (wide.trans below)))
    have fine : (10 : ℚ) ^ (k : ℤ) < 2 ^ (e - 1) := by
      have bound := (close (one natural)).trans_lt h.lt
      have tens : (10 : ℚ) ^ ((k : ℤ) + 18 - 1) = 10 ^ (k : ℤ) * 10 ^ (17 : ℤ) := by
        rw [← Decimal.ten_zpow_add]
        congr 1
        omega
      have twos : (2 : ℚ) ^ (e + 53) = 2 ^ (e - 1) * 2 ^ (54 : ℤ) := by
        rw [← two_zpow_add]
        congr 1
        omega
      have apart : (2 : ℚ) ^ (54 : ℤ) < 10 ^ (17 : ℤ) := by norm_num
      rw [tens, twos] at bound
      have step := mul_lt_mul_of_pos_left apart (two_zpow_pos (e - 1))
      exact lt_of_mul_lt_mul_right (bound.trans step) (Decimal.ten_zpow_pos _).le
    have part := Nat.div_add_mod' v (10 ^ k)
    have rest := Nat.mod_lt v (Nat.pow_pos (n := k) (by decide : 0 < 10))
    refine ⟨18, v / 10 ^ k + 1, k, by decide, by omega, h.reads_above ?_ ?_⟩
    · rw [Nat.succ_mul]
      omega
    · have low : ((v / 10 ^ k * 10 ^ k : ℕ) : ℚ) ≤ v := Nat.cast_le.2 (by omega)
      rw [Nat.succ_mul, Nat.cast_add, Nat.cast_pow, Nat.cast_ofNat, ← zpow_natCast (10 : ℚ) k]
      linarith

theorem findSome?_range {α : Type} {f : ℕ → Option α} {size : ℕ} {a : α}
    (found : (List.range size).findSome? f = some a) :
    ∃ i < size, f i = some a ∧ ∀ j < i, f j = none := by
  obtain ⟨before, i, after, split, hit, missed⟩ := List.findSome?_eq_some_iff.1 found
  have sorted : (before ++ i :: after).Pairwise (· < ·) := split ▸ List.pairwise_lt_range
  have inside : i < size := List.mem_range.1 (split ▸ List.mem_append_right _ List.mem_cons_self)
  refine ⟨i, inside, hit, fun j less => missed j ?_⟩
  have mem : j ∈ before ++ i :: after := split ▸ List.mem_range.2 (less.trans inside)
  have later := (List.pairwise_cons.1 (List.pairwise_append.1 sorted).2.1).1
  rcases List.mem_append.1 mem with early | late
  · exact early
  · rcases List.mem_cons.1 late with rfl | late
    · omega
    · have := later j late
      omega

/-- No number that is rounded to a double is on a grid coarser than the coarsest. -/
theorem grid_le_powerAbove (h : IsWhole m e v) (hd : den ≠ 0) {a i : ℕ}
    (reads : Reads m e (a * 10 ^ i)) : i ≤ powerAbove (v * den) den := by
  obtain ⟨above, -, -⟩ := powerAbove_bounds (Nat.pos_iff_ne_zero.1 h.one_le) hd
  have bound := reads.le (by decide) h.positive
  have nonzero : a ≠ 0 := left_ne_zero_of_mul (reads.ne_zero h.positive)
  by_contra! beyond
  have step : (10 : ℚ) ^ powerAbove (v * den) den * 10 ≤ 10 ^ i := by
    rw [← zpow_add_one₀ (by norm_num), ← zpow_natCast]
    exact zpow_le_zpow_right₀ (by norm_num) beyond
  have one : (1 : ℚ) * 10 ^ i ≤ (a * 10 ^ i : ℕ) := by
    rw [Nat.cast_mul, Nat.cast_pow, Nat.cast_ofNat]
    exact mul_le_mul_of_nonneg_right (by exact_mod_cast Nat.pos_of_ne_zero nonzero) (by positivity)
  rw [h.value] at bound
  linarith [Decimal.ten_zpow_pos (powerAbove (v * den) den)]

/-- A whole number is written with as many zeros at its end as any that is rounded to it has,
and is the closest of those with so many. -/
theorem shortest_eq (h : IsWhole m e v) (negative : Bool) :
    ∃ c k : ℕ, shortest negative m e = ⟨negative, c, k⟩ ∧ Reads m e (c * 10 ^ k) ∧
      (∀ a i, Reads m e (a * 10 ^ i) → i ≤ k) ∧
      ∀ a, Reads m e (a * 10 ^ k) → IsCloser v (c * 10 ^ k) (a * 10 ^ k) := by
  obtain ⟨den, hd, parts, one⟩ := quotient_eq h
  obtain ⟨i, a, k, small, place, reads⟩ := exists_hit h hd one
  have coarsest {a i : ℕ} (reads : Reads m e (a * 10 ^ i)) := grid_le_powerAbove h hd reads
  have missed {a i : ℕ} (none : onGrid? (.finite negative m e) negative (v * den) den i = none) :
      ¬Reads m e (a * 10 ^ i) := by
    rcases onGrid?_spec h hd negative i with ⟨c, hit, -⟩ | ⟨-, all⟩
    · rw [hit] at none
      cases none
    · exact all a
  unfold shortest
  rw [if_neg h.positive, parts]
  dsimp only
  unfold grids
  rw [List.findSome?_map]
  generalize powerAbove (v * den) den = p at *
  cases found : (List.range 19).findSome?
      (onGrid? (.finite negative m e) negative (v * den) den ∘ fun n : ℕ => p - n) with
  | none =>
    have none := List.findSome?_eq_none_iff.1 found i (List.mem_range.2 small)
    rw [Function.comp_apply, place] at none
    exact absurd reads (missed none)
  | some d =>
    obtain ⟨first, -, hit, before⟩ := findSome?_range found
    have early : first ≤ i := by
      refine Nat.le_of_not_lt fun late => ?_
      have none := before i late
      rw [Function.comp_apply, place] at none
      exact missed none reads
    obtain ⟨j, grid⟩ : ∃ j : ℕ, p - first = j := ⟨(p - first).toNat, by omega⟩
    rw [Function.comp_apply, grid] at hit
    rcases onGrid?_spec h hd negative j with ⟨c, taken, point, closest⟩ | ⟨none, -⟩
    · refine ⟨c, j, ?_, point, fun a i' reads' => ?_, closest⟩
      · rw [taken] at hit
        exact (Option.some.inj hit).symm
      · have low := coarsest reads'
        refine Nat.le_of_not_lt fun coarser => ?_
        have none := before (p - i').toNat (by omega)
        have index : p - ((p - i').toNat : ℤ) = i' := by omega
        rw [Function.comp_apply, index] at none
        exact missed none reads'
    · rw [none] at hit
      cases hit

end Search

end ChartQuery.Double
