import ChartQuery.Text.TitleCase

/-!
# Capital letters

The upper case of a character is the character itself, or it consists of other characters,
which are letters and marks of their own. These have no upper case but themselves, and none
of them is a small letter, a digit, white space or a separator (`upperCase_cases`). So a
text that is put in upper case stays as it is when that is done again, and no word comes to
an end in it.

The characters on the two sides of the tables are compared as sets, and the sets as the
bits of two numbers.
-/

namespace ChartQuery.Text

/-- The numbers in a list, as the bits of a number. -/
def bits : List Nat → Nat
  | [] => 0
  | n :: rest => 1 <<< n ||| bits rest

theorem testBit_bits (list : List Nat) (n : Nat) : (bits list).testBit n ↔ n ∈ list := by
  induction list with
  | nil => simp [bits]
  | cons first rest ih =>
    rw [bits, Nat.testBit_or, Nat.one_shiftLeft, Nat.testBit_two_pow, Bool.or_eq_true, ih,
      decide_eq_true_eq, List.mem_cons, eq_comm]

/-- Two lists without a common bit have no common number. -/
theorem notMem_of_bits {list other : List Nat} (apart : bits list &&& bits other = 0) {n : Nat}
    (mem : n ∈ list) : n ∉ other := by
  intro mem'
  have both : (bits list &&& bits other).testBit n := by
    rw [Nat.testBit_and, Bool.and_eq_true, testBit_bits, testBit_bits]
    exact ⟨mem, mem'⟩
  simp [apart] at both

def CaseRun.letters (run : CaseRun) : List Nat :=
  List.range' run.first ((run.last - run.first) / run.stride + 1) run.stride

theorem CaseRun.mem_letters {run : CaseRun} {n : Nat} (h : run.covers n) : n ∈ run.letters := by
  simp only [covers, Bool.and_eq_true, decide_eq_true_eq, beq_iff_eq] at h
  obtain ⟨⟨low, high⟩, even⟩ := h
  refine List.mem_range'.2 ⟨(n - run.first) / run.stride, ?_, ?_⟩
  · exact Nat.lt_succ_of_le (Nat.div_le_div_right (Nat.sub_le_sub_right high _))
  · have parts := Nat.div_add_mod (n - run.first) run.stride
    omega

def cased : List Nat :=
  List.range' 0x61 26 ++ (caseExpansions.map Prod.fst ++ caseRuns.flatMap CaseRun.letters)

/-- The characters that stand in the upper case of others. -/
def capitals : List Nat :=
  (List.range' 0x61 26).map (fun n => (Char.ofNat (n - 0x20)).toNat) ++
    (caseExpansions.flatMap (fun expansion => expansion.2.map fun n => (Char.ofNat n).toNat) ++
      caseRuns.flatMap fun run => run.letters.map fun (n : Nat) =>
        (Char.ofNat (n + run.shift).toNat).toNat)

def breaks : List Nat :=
  List.range' 0x30 10 ++ [0x2D, 0x5F] ++ (List.range' 0x09 5 ++ [0x20, 0x85, 0xA0, 0x1680] ++
    List.range' 0x2000 11 ++ [0x2028, 0x2029, 0x202F, 0x205F, 0x3000])

theorem capitals_apart : bits capitals &&& bits (cased ++ breaks) = 0 := by decide +kernel

theorem mem_breaks_of_isSpace {c : Char} (h : isSpace c) : c.toNat ∈ breaks := by
  simp only [isSpace, Bool.or_eq_true, Bool.and_eq_true, decide_eq_true_eq, beq_iff_eq] at h
  simp only [breaks, List.mem_append, List.mem_cons, List.mem_range'_1]
  omega

theorem mem_breaks_of_isDigit {c : Char} (h : c.isDigit) : c.toNat ∈ breaks := by
  have bounds := toNat_of_isDigit h
  simp only [breaks, List.mem_append, List.mem_cons, List.mem_range'_1]
  omega

theorem upperCase_of_notMem {c : Char} (h : c.toNat ∉ cased) : upperCase c = [c] := by
  simp only [cased, List.mem_append, List.mem_map, List.mem_flatMap, List.mem_range'_1,
    not_or] at h
  obtain ⟨small, expands, shifts⟩ := h
  have noExpansion : caseExpansions.lookup c.toNat = none := by
    rw [List.lookup_eq_none_iff]
    intro expansion mem
    simpa using fun same : c.toNat = expansion.1 => expands ⟨expansion, mem, same.symm⟩
  have noRun : caseRuns.find? (·.covers c.toNat) = none := by
    rw [List.find?_eq_none]
    exact fun run mem covers => shifts ⟨run, mem, CaseRun.mem_letters covers⟩
  have notSmall : ¬('a' ≤ c ∧ c ≤ 'z') := by
    rintro ⟨low, high⟩
    have low : 0x61 ≤ c.toNat := low
    have high : c.toNat ≤ 0x7A := high
    omega
  unfold upperCase
  simp [noExpansion, noRun, notSmall]

theorem mem_capitals_of_small {c : Char} (low : 'a' ≤ c) (high : c ≤ 'z') :
    (Char.ofNat (c.toNat - 0x20)).toNat ∈ capitals := by
  have low : 0x61 ≤ c.toNat := low
  have high : c.toNat ≤ 0x7A := high
  have made : (Char.ofNat (c.toNat - 0x20)).toNat ∈
      (List.range' 0x61 26).map fun n => (Char.ofNat (n - 0x20)).toNat :=
    List.mem_map_of_mem (List.mem_range'_1.2 ⟨low, by omega⟩)
  exact List.mem_append_left _ made

theorem mem_capitals_of_expansion {expansion : Nat × List Nat} {n : Nat}
    (mem : expansion ∈ caseExpansions) (letter : n ∈ expansion.2) :
    (Char.ofNat n).toNat ∈ capitals := by
  have made : (Char.ofNat n).toNat ∈
      caseExpansions.flatMap fun expansion => expansion.2.map fun n => (Char.ofNat n).toNat :=
    List.mem_flatMap.2 ⟨expansion, mem, List.mem_map_of_mem letter⟩
  exact List.mem_append_right _ (List.mem_append_left _ made)

theorem mem_capitals_of_run {run : CaseRun} {n : Nat} (mem : run ∈ caseRuns)
    (covers : run.covers n) : (Char.ofNat (n + run.shift).toNat).toNat ∈ capitals := by
  have made : (Char.ofNat (n + run.shift).toNat).toNat ∈ caseRuns.flatMap fun run =>
      run.letters.map fun (n : Nat) => (Char.ofNat (n + run.shift).toNat).toNat :=
    List.mem_flatMap.2 ⟨run, mem, List.mem_map_of_mem (CaseRun.mem_letters covers)⟩
  exact List.mem_append_right _ (List.mem_append_right _ made)

theorem caseExpansions_ne_nil : ∀ expansion ∈ caseExpansions, expansion.2 ≠ [] := by decide

theorem upperCase_eq_or (c : Char) :
    upperCase c = [c] ∨ upperCase c ≠ [] ∧ ∀ d ∈ upperCase c, d.toNat ∈ capitals := by
  simp only [upperCase]
  split
  · split
    · rename_i small
      simp only [Bool.and_eq_true, decide_eq_true_eq] at small
      exact .inr ⟨by simp, by simpa using mem_capitals_of_small small.1 small.2⟩
    · exact .inl rfl
  · split
    · rename_i letters found
      obtain ⟨before, after, split, -⟩ := List.lookup_eq_some_iff.1 found
      have mem : (c.toNat, letters) ∈ caseExpansions := by simp [split]
      refine .inr ⟨by simpa using caseExpansions_ne_nil _ mem, fun d made => ?_⟩
      obtain ⟨n, letter, rfl⟩ := List.mem_map.1 made
      exact mem_capitals_of_expansion mem letter
    · split
      · rename_i run found
        have covers : run.covers c.toNat := by simpa using List.find?_some found
        have mem := mem_capitals_of_run (List.mem_of_find?_eq_some found) covers
        exact .inr ⟨by simp, by simpa using mem⟩
      · exact .inl rfl

theorem toNat_of_isLower {c : Char} (h : c.isLower) : 0x61 ≤ c.toNat ∧ c.toNat ≤ 0x7A := by
  have bounds : (decide (c.val ≥ 0x61) && decide (c.val ≤ 0x7A)) = true := h
  rwa [Bool.and_eq_true, decide_eq_true_iff, decide_eq_true_iff] at bounds

/-- A character that stands for itself in upper case, and belongs to a word. It is no small
letter and no digit, so that no step to a capital letter begins with it. -/
structure IsCapital (c : Char) : Prop where
  fixed : upperCase c = [c]
  solid : isSpace c = false
  plain : separatorToBlank c = c
  level : c.isLower = false ∧ c.isDigit = false

theorem isCapital_of_mem {c : Char} (mem : c.toNat ∈ capitals) : IsCapital c := by
  have apart := notMem_of_bits capitals_apart mem
  simp only [List.mem_append, not_or] at apart
  obtain ⟨uncased, unbroken⟩ := apart
  refine ⟨upperCase_of_notMem uncased, ?_, ?_, ?_, ?_⟩
  · exact Bool.eq_false_iff.2 fun space => unbroken (mem_breaks_of_isSpace space)
  · refine if_neg ?_
    rintro (rfl | rfl) <;> exact unbroken (by decide)
  · refine Bool.eq_false_iff.2 fun small => uncased ?_
    obtain ⟨low, high⟩ := toNat_of_isLower small
    simp only [cased, List.mem_append, List.mem_range'_1]
    omega
  · exact Bool.eq_false_iff.2 fun digit => unbroken (mem_breaks_of_isDigit digit)

/-- The upper case of a character is the character itself, or it consists of capitals. -/
theorem upperCase_cases (c : Char) :
    upperCase c = [c] ∨ upperCase c ≠ [] ∧ ∀ d ∈ upperCase c, IsCapital d :=
  (upperCase_eq_or c).imp_right fun ⟨made, capital⟩ =>
    ⟨made, fun d mem => isCapital_of_mem (capital d mem)⟩

end ChartQuery.Text
