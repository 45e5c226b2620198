import ChartQuery.Data.FieldType
import ChartQuery.Proofs.Plan.Decoding

/-!
# Array types

The suffix of an array type stands behind the parameters of its element type, so it counts
only where there are no parameters.

Main statement: `TypeNames.classify_array`.
-/

namespace ChartQuery

open Text

namespace TypeNames

/-- What follows an element type in the name of an array type: brackets, with the number of
elements in them if it is fixed. -/
def arraySuffix : Option Nat → String
  | none => "[]"
  | some n => "[" ++ toString n ++ "]"

theorem arraySuffix_ends (size : Option Nat) :
    ∃ front, (arraySuffix size).toList = front ++ [']'] ∧ '(' ∉ front := by
  cases size with
  | none => exact ⟨['['], rfl, by decide⟩
  | some n =>
    refine ⟨'[' :: Nat.toDigits 10 n, by simp [arraySuffix], ?_⟩
    rw [List.mem_cons, not_or]
    refine ⟨by decide, fun mem => ?_⟩
    exact absurd (Nat.isDigit_of_mem_toDigits (by decide) (by decide) mem) (by decide)

variable {type : String}

/-- What follows a type with parameters does not count. -/
theorem baseName_append (parameters : '(' ∈ type.toList) (suffix : String) :
    baseName (type ++ suffix) = baseName type := by
  have cut : (type ++ suffix).toList.takeWhile (· != '(') = type.toList.takeWhile (· != '(') := by
    obtain ⟨front, rest, split, first⟩ := List.eq_append_cons_of_mem parameters
    have before : ∀ c ∈ front, (c != '(') = true := fun c mem =>
      bne_iff_ne.2 fun same => first (same ▸ mem)
    simp [split, List.takeWhile_append_of_pos before]
  rw [baseName, baseName, cut]

/-- A type name without parameters keeps a bracket at its end. -/
theorem baseName_bracket {front : List Char} (ends : type.toList = front ++ [']'])
    (bare : '(' ∉ front) : ∃ letters, (baseName type).toList = letters ++ [']'] := by
  have whole : type.toList.takeWhile (· != '(') = type.toList := by
    refine List.takeWhile_eq_self_iff.2 fun c mem => bne_iff_ne.2 ?_
    rintro rfl
    rw [ends, List.mem_append, List.mem_singleton] at mem
    exact mem.elim bare (by decide)
  refine ⟨upperCaseText (dropStart isSpace front), ?_⟩
  have bracket : upperCase ']' = [']'] := by decide
  rw [baseName, whole, String.ofList_toList, String.toList_ofList,
    toList_trim_concat ends (by decide), upperCaseText, List.flatMap_append,
    List.flatMap_singleton, bracket, upperCaseText]

theorem no_bracket_duckdb : ∀ name ∈ duckdb.number ++ duckdb.date, ']' ∉ name.toList := by
  decide +kernel

theorem classify_of_bracket {letters : List Char}
    (bracket : (baseName type).toList = letters ++ [']']) : duckdb.classify type = .text := by
  have absent : baseName type ∉ duckdb.number ++ duckdb.date := fun listed =>
    no_bracket_duckdb _ listed (by simp [bracket])
  rw [List.mem_append, not_or] at absent
  rw [classify, if_neg (by simpa using absent.1), if_neg (by simpa using absent.2)]

/-- An array holds texts to a chart, unless its element type has parameters: then it is taken
for its element type. -/
theorem classify_array (type : String) (size : Option Nat) :
    duckdb.classify (type ++ arraySuffix size) =
      if '(' ∈ type.toList then duckdb.classify type else .text := by
  split
  case isTrue parameters => rw [classify, classify, baseName_append parameters]
  case isFalse bare =>
    obtain ⟨front, ends, inside⟩ := arraySuffix_ends size
    have ends' : (type ++ arraySuffix size).toList = (type.toList ++ front) ++ [']'] := by
      rw [String.toList_append, ends, List.append_assoc]
    have bare' : '(' ∉ type.toList ++ front := by simp [bare, inside]
    obtain ⟨letters, bracket⟩ := baseName_bracket ends' bare'
    exact classify_of_bracket bracket

/-- Arrays of decimals are taken for numbers. -/
theorem decimal_arrays_are_numbers :
    duckdb.classify ("DECIMAL(18,3)" ++ arraySuffix none) = .number ∧
      duckdb.classify ("DECIMAL(18,3)" ++ arraySuffix (some 3)) = .number := by
  decide +kernel

end TypeNames

end ChartQuery
