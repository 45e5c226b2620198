import ChartQuery.Text.Digits

/-!
# Digits at the front of a text

A number is read back from its digits if the text does not go on with a digit.
-/

namespace ChartQuery.Text

variable {digits rest : List Char} {width n : Nat}

/-- A text that does not go on with a digit. -/
def Stops (rest : List Char) : Prop := ∀ c later, rest = c :: later → c.isDigit = false

theorem stops_nil : Stops [] := fun _ _ same => nomatch same

theorem stops_cons {c : Char} (h : c.isDigit = false) : Stops (c :: rest) := by
  rintro _ _ ⟨⟩
  exact h

theorem takeWhile_digits (all : ∀ c ∈ digits, c.isDigit) (stops : Stops rest) :
    (digits ++ rest).takeWhile Char.isDigit = digits := by
  rw [List.takeWhile_append_of_pos all]
  cases rest with
  | nil => simp
  | cons c later => simp [stops c later rfl]

theorem takeAllDigits_eq (all : ∀ c ∈ digits, c.isDigit) (stops : Stops rest) :
    takeAllDigits (digits ++ rest) = (digits, rest) := by
  rw [takeAllDigits, takeWhile_digits all stops, List.dropWhile_append_of_pos all]
  cases rest with
  | nil => rfl
  | cons c later => simp [stops c later rfl]

theorem takeAllDigits_toDigits (n : Nat) (stops : Stops rest) :
    takeAllDigits (Nat.toDigits 10 n ++ rest) = (Nat.toDigits 10 n, rest) :=
  takeAllDigits_eq (fun _ => Nat.isDigit_of_mem_toDigits (by decide) (by decide)) stops

theorem number_toDigits (n : Nat) : number (Nat.toDigits 10 n) = n :=
  Nat.ofDigitChars_toDigits (by decide) (by decide)

theorem toDigits_eq_cons (n : Nat) :
    ∃ first later, Nat.toDigits 10 n = first :: later ∧ first.isDigit := by
  obtain ⟨first, later, written⟩ := List.exists_cons_of_ne_nil
    (Nat.toDigits_ne_nil (n := n) (b := 10))
  exact ⟨first, later, written, Nat.isDigit_of_mem_toDigits (n := n) (b := 10) (by decide)
    (by decide) (written ▸ List.mem_cons_self)⟩

theorem eq_zero_of_toDigits {later : List Char} (h : Nat.toDigits 10 n = '0' :: later) :
    n = 0 := by
  induction n using Nat.strongRecOn generalizing later with
  | _ n ih =>
    rw [Nat.toDigits_eq_if (by decide)] at h
    split at h
    · have digit : ∀ d < 10, d.digitChar = '0' → d = 0 := by decide
      exact digit n ‹_› (List.cons.inj h).1
    · obtain ⟨first, more, written, -⟩ := toDigits_eq_cons (n / 10)
      rw [written, List.cons_append] at h
      rw [(List.cons.inj h).1] at written
      have front := ih (n / 10) (by omega) written
      omega

theorem toList_toString (k : Int) :
    (toString k).toList =
      if k < 0 then '-' :: Nat.toDigits 10 k.natAbs else Nat.toDigits 10 k.natAbs := by
  rw [Int.toString_eq_repr, Int.repr_eq_if]
  by_cases negative : k < 0
  · rw [if_neg (by omega), if_pos negative, show (-k).toNat = k.natAbs by omega]
    simp [Nat.toList_repr]
  · rw [if_pos (by omega), if_neg negative, show k.toNat = k.natAbs by omega, Nat.toList_repr]

theorem takeDigits_eq {most : Nat} (all : ∀ c ∈ digits, c.isDigit) (stops : Stops rest)
    (fits : digits.length ≤ most) : takeDigits most (digits ++ rest) = (digits, rest) := by
  simp only [takeDigits, takeWhile_digits all stops, List.take_of_length_le fits, List.drop_left]

theorem takeDigits_stops (most : Nat) (stops : Stops rest) : takeDigits most rest = ([], rest) :=
  @takeDigits_eq [] rest most (by simp) stops (Nat.zero_le _)

theorem isDigit_of_mem_padded {c : Char} (mem : c ∈ padded width n) : c.isDigit := by
  obtain zeros | digits := List.mem_append.1 mem
  · rw [List.eq_of_mem_replicate zeros]
    rfl
  · exact Nat.isDigit_of_mem_toDigits (by decide) (by decide) digits

theorem length_padded (pos : 0 < width) (small : n < Nat.pow 10 width) :
    (padded width n).length = width := by
  have fits : (Nat.toDigits 10 n).length ≤ width :=
    (Nat.length_toDigits_le_iff (by decide) pos).2 small
  simp only [padded, List.length_append, List.length_replicate]
  omega

theorem padded_eq_cons (width n : Nat) : ∃ c later, padded width n = c :: later ∧ c.isDigit := by
  cases written : padded width n with
  | nil => simp [padded, Nat.toDigits_ne_nil] at written
  | cons c later => exact ⟨c, later, rfl, isDigit_of_mem_padded (written ▸ List.mem_cons_self)⟩

theorem padded_eq_concat (width n : Nat) :
    ∃ front c, padded width n = front ++ [c] ∧ c.isDigit := by
  obtain ⟨first, later, written, -⟩ := padded_eq_cons width n
  have some : padded width n ≠ [] := by simp [written]
  exact ⟨_, _, (List.dropLast_concat_getLast some).symm,
    isDigit_of_mem_padded (List.getLast_mem some)⟩

theorem takeDigits_padded {most : Nat} (pos : 0 < width) (small : n < Nat.pow 10 width)
    (fits : width ≤ most) (stops : Stops rest) :
    takeDigits most (padded width n ++ rest) = (padded width n, rest) :=
  takeDigits_eq (fun _ => isDigit_of_mem_padded) stops (by rwa [length_padded pos small])

end ChartQuery.Text
