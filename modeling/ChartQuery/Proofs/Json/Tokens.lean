import ChartQuery.Json.Reader
import ChartQuery.Json.Writer
import ChartQuery.Proofs.Text.Digits

/-!
# Strings and numbers in JSON text

A string is read back character by character, whether a character is escaped or not. A
number is read back if a comma, a closing bracket or the end of the text follows it. An
integer has neither fraction nor exponent, and a decimal always has an exponent, so each
is read back as what it was.
-/

namespace ChartQuery.Json

open Text

section Strings

variable {rest : List Char}

theorem hexValue?_digitChar : ∀ d < 16, hexValue? d.digitChar = some d := by decide

theorem toDigits_sixteen (n : Nat) :
    Nat.toDigits 16 n =
      if n < 16 then [n.digitChar] else Nat.toDigits 16 (n / 16) ++ [(n % 16).digitChar] :=
  Nat.toDigits_eq_if (by decide)

theorem unicodeEscape_eq {n : Nat} (small : n < 0x10000) :
    unicodeEscape n =
      ['\\', 'u', (n / 4096).digitChar, (n / 256 % 16).digitChar, (n / 16 % 16).digitChar,
        (n % 16).digitChar] := by
  unfold unicodeEscape
  rw [toDigits_sixteen n, toDigits_sixteen (n / 16), toDigits_sixteen (n / 16 / 16),
    toDigits_sixteen (n / 16 / 16 / 16)]
  simp only [Nat.div_div_eq_div_mul, Nat.reduceMul, show n / 4096 < 16 by omega, if_true]
  by_cases one : n < 16
  · have zero : n / 4096 = 0 ∧ n / 256 = 0 ∧ n / 16 = 0 ∧ n % 16 = n := by omega
    simp [one, zero, List.replicate]
  by_cases two : n < 256
  · have zero : n / 4096 = 0 ∧ n / 256 = 0 ∧ n / 16 < 16 := by omega
    simp [one, zero, List.replicate, Nat.mod_eq_of_lt]
  by_cases three : n < 4096
  · have zero : n / 4096 = 0 ∧ n / 256 < 16 ∧ ¬n / 16 < 16 := by omega
    simp [one, zero, Nat.mod_eq_of_lt]
  · have large : ¬n / 16 < 16 ∧ ¬n / 256 < 16 := by omega
    simp [one, large]

theorem unit?_unicodeEscape {n : Nat} (small : n < 0x10000) :
    unit? (n / 4096).digitChar (n / 256 % 16).digitChar (n / 16 % 16).digitChar (n % 16).digitChar =
      some n := by
  have value {d : Nat} (h : d < 16) := hexValue?_digitChar d h
  simp only [unit?, value (Nat.mod_lt _ (by decide)), value (show n / 4096 < 16 by omega),
    Option.bind_eq_bind, Option.bind_some, Option.pure_def, Option.some.injEq]
  omega

theorem lt_of_isEscaped {c : Char} (h : isEscaped c) :
    c.toNat < 0x10000 ∧ isHighSurrogate c.toNat = false ∧ isLowSurrogate c.toNat = false := by
  simp only [isEscaped, Bool.or_eq_true, decide_eq_true_eq, beq_iff_eq] at h
  simp only [isHighSurrogate, isLowSurrogate, Bool.and_eq_false_iff, decide_eq_false_iff_not]
  omega

theorem readString_unicodeEscape {c : Char} (h : isEscaped c) :
    readString (unicodeEscape c.toNat ++ rest) =
      (readString rest).map fun (tail, rest) => (c :: tail, rest) := by
  obtain ⟨small, high, low⟩ := lt_of_isEscaped h
  rw [unicodeEscape_eq small]
  simp only [List.cons_append, List.nil_append, readString, unit?_unicodeEscape small, high, low,
    Option.bind_eq_bind, Option.bind_some, Char.ofNat_toNat, Bool.false_eq_true, if_false]
  cases readString rest <;> rfl

theorem readString_plain {c : Char} (quote : c ≠ '"') (backslash : c ≠ '\\')
    (h : isEscaped c = false) :
    readString (c :: rest) = (readString rest).map fun (tail, rest) => (c :: tail, rest) := by
  have shown : ¬c.toNat < 0x20 := by
    simp only [isEscaped, Bool.or_eq_false_iff, decide_eq_false_iff_not] at h
    exact h.1.1.1.1
  rw [readString]
  · rw [if_neg shown]
    cases readString rest <;> rfl
  all_goals simp [quote, backslash]

theorem readString_letterEscape {letter c : Char} (h : letterEscape? letter = some c) :
    readString ('\\' :: letter :: rest) =
      (readString rest).map fun (tail, rest) => (c :: tail, rest) := by
  have other : letter ≠ 'u' := by
    rintro rfl
    cases h
  rw [readString]
  · rw [h]
    cases readString rest <;> rfl
  · simp [other]

theorem readString_escape (c : Char) :
    readString (escape c ++ rest) =
      (readString rest).map fun (tail, rest) => (c :: tail, rest) := by
  unfold escape
  split
  · exact readString_letterEscape (by subst_vars; rfl)
  split
  · exact readString_letterEscape (by subst_vars; rfl)
  split
  · exact readString_unicodeEscape ‹_›
  · exact readString_plain ‹_› ‹_› (Bool.eq_false_iff.2 ‹_›)

theorem readString_stringText (s rest : List Char) :
    readString (s.flatMap escape ++ '"' :: rest) = some (s, rest) := by
  induction s with
  | nil => rw [List.flatMap_nil, List.nil_append, readString]
  | cons c s ih => rw [List.flatMap_cons, List.append_assoc, readString_escape, ih, Option.map_some]

end Strings

section Numbers

variable {rest : List Char} {n : Nat}

/-- A text that does not go on with a value: it is over, or a comma or a closing bracket
follows. -/
def Closes (rest : List Char) : Prop :=
  ∀ c later, rest = c :: later → c = ',' ∨ c = ']' ∨ c = '}'

theorem closes_nil : Closes [] := fun _ _ same => nomatch same

theorem closes_cons {c : Char} (h : c = ',' ∨ c = ']' ∨ c = '}') : Closes (c :: rest) := by
  rintro _ _ ⟨⟩
  exact h

theorem Closes.stops (h : Closes rest) : Stops rest := by
  intro c later same
  rcases h c later same with rfl | rfl | rfl <;> rfl

theorem readWhole_toDigits (n : Nat) (stops : Stops rest) :
    readWhole (Nat.toDigits 10 n ++ rest) = some (Nat.toDigits 10 n, rest) := by
  rw [readWhole, takeAllDigits_toDigits n stops]
  dsimp only
  split
  · exact absurd ‹_› Nat.toDigits_ne_nil
  · rename_i second later written
    rw [eq_zero_of_toDigits written] at written
    cases written
  · rfl

theorem readFraction_none {c : Char} {later : List Char} (h : c ≠ '.') :
    readFraction (c :: later) = some ([], c :: later) := by
  unfold readFraction
  split
  · rename_i same
    exact absurd (List.cons.inj same).1 h
  · rfl

theorem Closes.readFraction (h : Closes rest) : readFraction rest = some ([], rest) := by
  cases rest with
  | nil => rfl
  | cons c later => rcases h c later rfl with rfl | rfl | rfl <;> rfl

theorem Closes.readPower (h : Closes rest) : readPower rest = some (0, rest) := by
  cases rest with
  | nil => rfl
  | cons c later => rcases h c later rfl with rfl | rfl | rfl <;> rfl

theorem readNumber_integer (negative : Bool) (n : Nat) (h : negative → n ≠ 0)
    (closes : Closes rest) :
    readNumber negative (Nat.toDigits 10 n ++ rest) =
      some (.integer (if negative then -n else n), rest) := by
  simp only [readNumber, readWhole_toDigits n closes.stops, closes.readFraction, closes.readPower,
    List.append_nil, number_toDigits, Option.bind_eq_bind, Option.bind_some]
  rw [if_pos ⟨trivial, fun ⟨minus, zero⟩ => h minus zero⟩]
  rfl

theorem takeSign_toDigits (n : Nat) :
    Decimal.takeSign (Nat.toDigits 10 n ++ rest) = (false, Nat.toDigits 10 n ++ rest) := by
  obtain ⟨first, later, written, digit⟩ := toDigits_eq_cons n
  rw [written, List.cons_append, Decimal.takeSign]
  all_goals
    rintro _ ⟨⟩
    cases digit

theorem readPower_toString (k : Int) (closes : Closes rest) :
    readPower ('e' :: ((toString k).toList ++ rest)) = some (k, rest) := by
  have some : (Nat.toDigits 10 k.natAbs).isEmpty = false := by
    simp [Nat.toDigits_ne_nil]
  rw [toList_toString]
  by_cases negative : k < 0
  · have value : -(k.natAbs : Int) = k := by omega
    simp only [if_pos negative, readPower, List.cons_append, Decimal.takeSign,
      takeAllDigits_toDigits _ closes.stops, some, number_toDigits, value, beq_self_eq_true,
      Bool.true_or, Bool.false_eq_true, if_true, if_false]
  · have value : (k.natAbs : Int) = k := by omega
    simp only [if_neg negative, readPower, takeSign_toDigits,
      takeAllDigits_toDigits _ closes.stops, some, number_toDigits, value, beq_self_eq_true,
      Bool.true_or, Bool.false_eq_true, if_true, if_false]

theorem readNumber_decimal (negative : Bool) (n : Nat) (k : Int) (closes : Closes rest) :
    readNumber negative (Nat.toDigits 10 n ++ 'e' :: ((toString k).toList ++ rest)) =
      some (.real ⟨negative, n, k⟩, rest) := by
  have stops : Stops ('e' :: ((toString k).toList ++ rest)) := stops_cons rfl
  have shorter : rest.length ≠ ('e' :: ((toString k).toList ++ rest)).length := by
    simp only [List.length_cons, List.length_append]
    omega
  simp only [readNumber, readWhole_toDigits n stops, readFraction_none (c := 'e') (by decide),
    readPower_toString k closes, List.append_nil, number_toDigits, Option.bind_eq_bind,
    Option.bind_some, List.length_nil]
  rw [if_neg (fun both => shorter both.1)]
  simp

end Numbers

end ChartQuery.Json
