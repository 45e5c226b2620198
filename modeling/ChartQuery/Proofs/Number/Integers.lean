import ChartQuery.Proofs.Number.WholeNumbers

/-!
# Integers and their doubles

An integer of 128 bits has a double, which is an integer too, and up to the fifty-third power
of two it is the integer itself. Beyond, several integers have one double, and its text is
that of the roundest of them.

Main statements: `Double.exists_roundest`, `Double.isRoundest_of_small`.
-/

namespace ChartQuery

open Decimal

section Texts

def signed (negative : Bool) (n : ℕ) : ℤ := if negative then -n else n

theorem natAbs_signed (negative : Bool) (n : ℕ) : (signed negative n).natAbs = n := by
  cases negative <;> simp [signed]

theorem signed_natAbs (n : ℤ) : signed (n < 0) n.natAbs = n := by
  by_cases negative : n < 0
  · simp only [signed, negative, decide_true, if_true]
    omega
  · simp only [signed, negative, decide_false, Bool.false_eq_true, if_false]
    omega

theorem signed_neg {negative : Bool} {n : ℕ} (positive : 0 < n) :
    decide (signed negative n < 0) = negative := by
  cases negative <;> simp [signed, positive]

theorem natAbs_signed_sub (negative : Bool) (m n : ℕ) :
    (signed negative m - signed negative n).natAbs = (m - n : ℤ).natAbs := by
  cases negative <;> simp only [signed, if_true, Bool.false_eq_true, if_false]
  omega

theorem ten_pow_dvd_iff {k : ℕ} {n : ℤ} : (10 : ℤ) ^ k ∣ n ↔ 10 ^ k ∣ n.natAbs := by
  rw [← Int.natCast_dvd, Nat.cast_pow, Nat.cast_ofNat]

theorem toDigits_mul_ten_pow {n : ℕ} (positive : 0 < n) (k : ℕ) :
    Nat.toDigits 10 (n * 10 ^ k) = Nat.toDigits 10 n ++ List.replicate k '0' := by
  induction k with
  | zero => simp
  | succ k ih =>
    have digits := Nat.toDigits_append_toDigits (b := 10) (n := n * 10 ^ k) (d := 0) (by decide)
      (Nat.mul_pos positive (Nat.pow_pos (by decide))) (by decide)
    rw [Nat.toDigits_zero, ih] at digits
    rw [Nat.pow_succ, ← Nat.mul_assoc, Nat.mul_comm _ 10, ← Nat.add_zero (10 * _), ← digits,
      List.append_assoc, ← List.replicate_succ']

/-- A decimal without a fraction is written as an integer. -/
theorem positional_whole (negative : Bool) {c : ℕ} (positive : 0 < c) (k : ℕ) :
    (Decimal.mk negative c k).positional =
      toString (signed negative (c * 10 ^ k)) := by
  have nonneg : (0 : ℤ) ≤ k := Int.natCast_nonneg k
  have above : 0 < c * 10 ^ k := Nat.mul_pos positive (Nat.pow_pos (by decide))
  simp only [positional, signed, if_pos nonneg, Int.toNat_natCast, ← toDigits_mul_ten_pow positive,
    Int.toString_eq_repr, Int.repr_eq_if, ← String.toList_inj]
  generalize c * 10 ^ k = n at above
  cases negative with
  | true =>
    have nonzero : n ≠ 0 := by omega
    simp [nonzero, Nat.toList_repr]
  | false => simp [Nat.toList_repr]

end Texts

namespace Double

variable {negative : Bool} {m n v : ℕ} {e : ℤ}

/-- A number up to the fifty-third power of two is a double. -/
theorem exists_isWhole (positive : n ≠ 0) (small : n ≤ 2 ^ 53) : ∃ m e, IsWhole m e n := by
  rcases small.eq_or_lt with rfl | fits
  · refine ⟨2 ^ 52, 1, ⟨by decide, by decide, .inr le_rfl⟩, by decide, by decide, ?_⟩
    rw [magnitude, natCast_two_pow, natCast_two_pow, ← two_zpow_add]
    rfl
  · have low : 2 ^ n.log2 ≤ n := Nat.log2_self_le positive
    have high : n < 2 ^ (n.log2 + 1) := Nat.lt_log2_self
    have place : n.log2 < 53 := (Nat.log2_lt positive).2 fits
    obtain ⟨k, width⟩ : ∃ k, n.log2 + k = 52 := ⟨52 - n.log2, by omega⟩
    have first := Nat.mul_le_mul_right (2 ^ k) low
    have last := Nat.mul_lt_mul_of_pos_right high (Nat.two_pow_pos k)
    rw [← Nat.pow_add] at first last
    have end_ : n.log2 + 1 + k = 53 := by omega
    rw [width] at first
    rw [end_] at last
    refine ⟨n * 2 ^ k, -k, ⟨last, ?_, .inr first⟩, by omega, ?_, ?_⟩
    · change (-1074 : ℤ) ≤ -k
      omega
    · exact Nat.mul_ne_zero positive (Nat.two_pow_pos k).ne'
    · rw [magnitude, Nat.cast_mul, natCast_two_pow, mul_assoc, ← two_zpow_add, add_neg_cancel,
        zpow_zero, mul_one]

theorem Reads.positive (h : Reads m e n) (positive : n ≠ 0) : m ≠ 0 := by
  rintro rfl
  obtain ⟨one, e', whole⟩ := exists_isWhole one_ne_zero (by decide)
  have order := whole.reads.mono (by decide) h (Nat.cast_le.2 (Nat.pos_of_ne_zero positive))
  rw [whole.value, magnitude, Nat.cast_zero, zero_mul, Nat.cast_one] at order
  exact absurd order (by norm_num)

/-- What a number is rounded to is a whole number, and up to the fifty-third power of two the
number itself. -/
theorem Reads.isWhole (h : Reads m e n) (positive : n ≠ 0) (top : e ≤ 971) :
    ∃ v, IsWhole m e v ∧ (n ≤ 2 ^ 53 → v = n) := by
  rcases Nat.lt_or_ge (2 ^ 53) n with large | small
  · have nonzero := h.positive positive
    have wide : (2 : ℚ) ^ (53 : ℤ) < 2 ^ (e + 53) := by
      have below : ((2 ^ 53 : ℕ) : ℚ) < n := Nat.cast_lt.2 large
      rw [natCast_two_pow] at below
      exact below.trans (h.bounds nonzero).2
    have natural := (zpow_lt_zpow_iff_right₀ (by norm_num)).1 wide
    obtain ⟨k, rfl⟩ : ∃ k : ℕ, e = k := ⟨e.toNat, by omega⟩
    refine ⟨m * 2 ^ k, ⟨h.inForm (by decide), top, nonzero, ?_⟩, by omega⟩
    rw [magnitude, Nat.cast_mul, natCast_two_pow]
  · obtain ⟨m', e', whole⟩ := exists_isWhole positive small
    obtain ⟨rfl, rfl⟩ := whole.reads.eq (by decide) h
    exact ⟨n, whole, fun _ => rfl⟩

theorem Reads.top (h : Reads m e n) (bounded : n ≤ 2 ^ 127) : e ≤ 971 := by
  have bound {e : ℤ} (exponent : IsExponent .double (n : ℚ) e) : e ≤ 75 := by
    rcases exponent.full with least | full
    · rw [least]
      decide
    · have below : (n : ℚ) ≤ (2 ^ 127 : ℕ) := Nat.cast_le.2 bounded
      rw [natCast_two_pow] at below
      have := (zpow_le_zpow_iff_right₀ (by norm_num)).1 (full.trans below)
      change e + 53 - 1 ≤ 127 at this
      omega
  cases h with
  | plain exponent _ _ => exact (bound exponent).trans (by decide)
  | carried exponent _ =>
    have := bound exponent
    omega

end Double

section Integers

variable {a n : ℤ}

open Double

theorem ofInt_eq (positive : n.natAbs ≠ 0) :
    ∃ m e, Reads m e n.natAbs ∧ ofInt n = ofForm .double (n < 0) m e := by
  obtain ⟨m, e, rounds, known⟩ := round_eq .double positive one_ne_zero (n < 0)
  rw [Nat.cast_one, div_one] at rounds
  exact ⟨m, e, rounds, known⟩

theorem ofInt_eq_finite_iff {negative : Bool} {m : ℕ} {e : ℤ} (positive : m ≠ 0) (top : e ≤ 971) :
    ofInt n = .finite negative m e ↔ decide (n < 0) = negative ∧ Reads m e n.natAbs := by
  rcases Nat.eq_zero_or_pos n.natAbs with zero | above
  · obtain rfl : n = 0 := Int.natAbs_eq_zero.1 zero
    constructor
    · intro same
      injection same with _ none
      exact absurd none.symm positive
    · rintro ⟨-, reads⟩
      exact absurd rfl (reads.ne_zero positive)
  · obtain ⟨m', e', reads, known⟩ := ofInt_eq above.ne'
    rw [known, ofForm]
    constructor
    · intro same
      split at same
      · cases same
      · cases same
        exact ⟨rfl, reads⟩
    · rintro ⟨rfl, reads'⟩
      obtain ⟨rfl, rfl⟩ := reads.eq (by decide) reads'
      exact if_neg (not_lt.2 top)

theorem ofInt_eq_zero_iff : ofInt n = ofInt 0 ↔ n = 0 := by
  refine ⟨fun same => ?_, fun same => same ▸ rfl⟩
  by_contra nonzero
  obtain ⟨m, e, reads, known⟩ := ofInt_eq (Int.natAbs_ne_zero.2 nonzero)
  rw [known, ofForm] at same
  split at same
  · cases same
  · injection same with _ none
    exact reads.positive (Int.natAbs_ne_zero.2 nonzero) none

end Integers

namespace Double

def whole (x : Double) : ℤ := x.truncate?.getD 0

theorem whole_finite {m v : ℕ} {e : ℤ} (h : IsWhole m e v) (negative : Bool) :
    whole (.finite negative m e) = signed negative v := by
  obtain ⟨den, hd, parts, -⟩ := quotient_eq h
  simp only [whole, truncate?, parts, Nat.mul_div_cancel v (Nat.pos_of_ne_zero hd),
    Option.getD_some]
  rfl

/-- Of the integers with one double, one with the most zeros at its end, of these one closest
to the double, and of two such the one farther from zero. -/
structure IsRoundest (n : ℤ) : Prop where
  zeros : ∀ a : ℤ, ofInt a = ofInt n → ∀ k : ℕ, 10 ^ k ∣ a → 10 ^ k ∣ n
  closest : ∀ a : ℤ, ofInt a = ofInt n → (∀ k : ℕ, 10 ^ k ∣ n → 10 ^ k ∣ a) →
    (n - (ofInt n).whole).natAbs ≤ (a - (ofInt n).whole).natAbs ∧
      ((n - (ofInt n).whole).natAbs = (a - (ofInt n).whole).natAbs → a.natAbs ≤ n.natAbs)

theorem ofForm_negative {format : BinaryFormat} {s s' : Bool} {m m' : ℕ} {e e' : ℤ}
    (same : ofForm format s m e = ofForm format s' m' e') : s = s' := by
  unfold ofForm at same
  split at same <;> split at same <;> cases same <;> rfl

theorem eq_of_natAbs_eq {a n : ℤ} (same : ofInt a = ofInt n) (size : a.natAbs = n.natAbs) :
    a = n := by
  by_cases zero : n.natAbs = 0
  · omega
  · obtain ⟨m, e, -, known⟩ := ofInt_eq zero
    obtain ⟨m', e', -, known'⟩ := ofInt_eq (size ▸ zero : a.natAbs ≠ 0)
    rw [known, known'] at same
    have sign := decide_eq_decide.1 (ofForm_negative same)
    omega

/-- Only one integer with a double is the roundest. -/
theorem IsRoundest.eq {a n : ℤ} (ha : IsRoundest a) (hn : IsRoundest n)
    (same : ofInt a = ofInt n) : a = n := by
  obtain ⟨near, large⟩ := ha.closest n same.symm fun k => hn.zeros a same k
  obtain ⟨near', large'⟩ := hn.closest a same fun k => ha.zeros n same.symm k
  rw [same] at near large
  have distance := Nat.le_antisymm near near'
  exact eq_of_natAbs_eq same (Nat.le_antisymm (large' distance.symm) (large distance))

/-- An integer of 128 bits is written as the roundest one with its double. -/
theorem exists_roundest {n : ℤ} (bounded : n.natAbs ≤ 2 ^ 127) :
    ∃ a, IsRoundest a ∧ ofInt a = ofInt n ∧ (ofInt n).text = toString a := by
  by_cases zero : n = 0
  · subst zero
    refine ⟨0, ⟨fun a same k _ => dvd_zero _, fun a same _ => ?_⟩, rfl, by decide⟩
    rw [ofInt_eq_zero_iff.1 same]
    exact ⟨le_rfl, fun _ => le_rfl⟩
  have positive : n.natAbs ≠ 0 := Int.natAbs_ne_zero.2 zero
  obtain ⟨m, e, reads, -⟩ := ofInt_eq positive
  have top := reads.top bounded
  obtain ⟨v, hv, -⟩ := reads.isWhole positive top
  obtain ⟨c, k, written, point, zeros, closest⟩ := shortest_eq hv (n < 0)
  generalize sign : decide (n < 0) = negative at written
  have known : ofInt n = .finite negative m e :=
    (ofInt_eq_finite_iff hv.positive top).2 ⟨sign, reads⟩
  have above : 0 < c := Nat.pos_of_ne_zero (left_ne_zero_of_mul (point.ne_zero hv.positive))
  have size := natAbs_signed negative (c * 10 ^ k)
  have read : ofInt (signed negative (c * 10 ^ k)) = .finite negative m e :=
    (ofInt_eq_finite_iff hv.positive top).2
      ⟨signed_neg (Nat.mul_pos above (Nat.pow_pos (by decide))), by rwa [size]⟩
  refine ⟨signed negative (c * 10 ^ k), ⟨fun a same i divides => ?_, fun a same divides => ?_⟩,
    read.trans known.symm, ?_⟩
  · obtain ⟨-, alike⟩ := (ofInt_eq_finite_iff hv.positive top).1 (same.trans read)
    obtain ⟨b, parts⟩ := ten_pow_dvd_iff.1 divides
    rw [parts, Nat.mul_comm] at alike
    rw [ten_pow_dvd_iff, size]
    exact (Nat.pow_dvd_pow 10 (zeros b i alike)).trans (Nat.dvd_mul_left _ _)
  · obtain ⟨sign', alike⟩ := (ofInt_eq_finite_iff hv.positive top).1 (same.trans read)
    obtain ⟨b, parts⟩ := ten_pow_dvd_iff.1 (divides k (ten_pow_dvd_iff.2
      (size.symm ▸ Nat.dvd_mul_left _ _)))
    rw [Nat.mul_comm] at parts
    rw [← signed_natAbs a, sign', parts, read, whole_finite hv, natAbs_signed_sub,
      natAbs_signed_sub, natAbs_signed, natAbs_signed]
    exact closest b (parts ▸ alike)
  · rw [known, Double.text, written, positional_whole _ above]

/-- Beside itself, only the number after the fifty-third power of two is rounded to a number
up to this power. -/
theorem eq_or_eq_of_reads {a n m : ℕ} {e : ℤ} (whole : IsWhole m e n) (small : n ≤ 2 ^ 53)
    (reads : Reads m e a) : a = n ∨ a = 2 ^ 53 + 1 := by
  have positive : a ≠ 0 := reads.ne_zero whole.positive
  rcases Nat.lt_or_ge (2 ^ 53) a with large | little
  · right
    by_contra other
    have next : IsWhole (2 ^ 52 + 1) 1 (2 ^ 53 + 2) := by
      refine ⟨⟨by decide, by decide, .inr (by decide)⟩, by decide, by decide, ?_⟩
      rw [magnitude, zpow_one]
      norm_num
    have order := next.reads.mono (by decide) reads (Nat.cast_le.2 (by omega))
    rw [next.value, whole.value, Nat.cast_le] at order
    omega
  · left
    obtain ⟨v, same, exact⟩ := reads.isWhole positive whole.top
    have value := same.value.symm.trans whole.value
    rw [← exact little]
    exact_mod_cast value

/-- Up to the fifty-third power of two an integer is the roundest one with its double. -/
theorem isRoundest_of_small {n : ℤ} (small : n.natAbs ≤ 2 ^ 53) : IsRoundest n := by
  obtain ⟨a, roundest, same, -⟩ := exists_roundest (small.trans (by decide : 2 ^ 53 ≤ 2 ^ 127))
  by_cases zero : n = 0
  · subst zero
    exact ofInt_eq_zero_iff.1 same ▸ roundest
  have positive : n.natAbs ≠ 0 := Int.natAbs_ne_zero.2 zero
  obtain ⟨m, e, reads, -⟩ := ofInt_eq positive
  have top := reads.top (small.trans (by decide : 2 ^ 53 ≤ 2 ^ 127))
  obtain ⟨v, hv, exact⟩ := reads.isWhole positive top
  obtain rfl := exact small
  have known : ofInt n = .finite (n < 0) m e := (ofInt_eq_finite_iff hv.positive top).2 ⟨rfl, reads⟩
  obtain ⟨-, alike⟩ := (ofInt_eq_finite_iff hv.positive top).1 (same.trans known)
  rcases eq_or_eq_of_reads hv small alike with equal | next
  · exact eq_of_natAbs_eq same equal ▸ roundest
  · have noZero (k : ℕ) (divides : (10 : ℤ) ^ k ∣ a) : (10 : ℤ) ^ k ∣ n := by
      rcases Nat.eq_zero_or_pos k with rfl | above
      · simp
      · rw [ten_pow_dvd_iff, next] at divides
        exact absurd ((dvd_pow_self 10 above.ne').trans divides) (by decide)
    obtain ⟨near, -⟩ := roundest.closest n same.symm noZero
    have center : (ofInt a).whole = n := by rw [same, known, whole_finite hv, signed_natAbs]
    rw [center] at near
    have equal : a = n := by omega
    exact equal ▸ roundest

end Double

end ChartQuery
