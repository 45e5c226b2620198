import ChartQuery.Data.Value
import ChartQuery.Proofs.Number.Integers
import ChartQuery.Proofs.Sql.LexicalSafety
import Std.Data.String.ToInt

/-!
# Cells that are written as numbers

As a text a cell with an integer is the number that its double is written as, and a cell with
a date or a time is the number of days or of units that it holds. So integers beyond the
fifty-third power of two share texts, and no date is written as a date.

Main statements: `integers_as_text`, `dates_as_text`.
-/

namespace ChartQuery

open Double

namespace Cell

variable {a n : ℤ}

theorem coerce_integer_text (n : ℤ) : (integer n).coerce .text = .text (ofInt n).text := rfl

/-- The number of days or of units in a cell with a date or a time. -/
def count? : Cell → Option ℤ
  | date days => some days
  | dateTime _ count => some count
  | timeOfDay nanoseconds => some nanoseconds
  | _ => none

theorem coerce_text_of_count {cell : Cell} (temporal : cell.count? = some n) :
    cell.coerce .text = (integer n).coerce .text := by
  cases cell with
  | date | dateTime | timeOfDay =>
    cases temporal
    rfl
  | _ => cases temporal

end Cell

theorem no_letter_in_text (x : Double) : 'T' ∉ x.text.toList := by
  cases x with
  | infinite negative => cases negative <;> decide
  | nan => decide
  | finite negative m e =>
    intro mem
    obtain ⟨body, text, numeric⟩ := (shortest negative m e).positional_eq
    have number (mem : 'T' ∈ body) : False := (numeric 'T' mem).elim (by decide) (by decide)
    rw [Double.text, text] at mem
    split at mem
    · exact (List.mem_cons.1 mem).elim (by decide) number
    · exact number mem

theorem letter_in_text (t : DateTime) (places : ℕ) : 'T' ∈ (t.text places).toList := by
  rw [DateTime.text, String.toList_ofList]
  exact List.mem_append_right _ List.mem_cons_self

/-- As a text, a cell with an integer of 128 bits is the roundest integer with the same double,
so it is the integer itself exactly if no rounder one has its double. It is up to the
fifty-third power of two, and two cells have the same text exactly if they have the same
double. -/
theorem integers_as_text (n : ℤ) (low : -2 ^ 127 ≤ n) (high : n < 2 ^ 127) :
    (∃ a : ℤ, (Cell.integer n).coerce .text = .text (toString a) ∧ IsRoundest a ∧
      ofInt a = ofInt n) ∧
    ((Cell.integer n).coerce .text = .text (toString n) ↔ IsRoundest n) ∧
    (n.natAbs ≤ 2 ^ 53 → (Cell.integer n).coerce .text = .text (toString n)) ∧
    ∀ b : ℤ, -2 ^ 127 ≤ b → b < 2 ^ 127 →
      ((Cell.integer b).coerce .text = (Cell.integer n).coerce .text ↔ ofInt b = ofInt n) := by
  have within {n : ℤ} (low : -2 ^ 127 ≤ n) (high : n < 2 ^ 127) : n.natAbs ≤ 2 ^ 127 := by omega
  obtain ⟨a, roundest, same, text⟩ := exists_roundest (within low high)
  have shown : (Cell.integer n).coerce .text = .text (toString a) := by
    rw [Cell.coerce_integer_text, text]
  have itself : (Cell.integer n).coerce .text = .text (toString n) ↔ IsRoundest n := by
    rw [shown]
    constructor
    · intro equal
      exact Int.repr_injective (Value.text.inj equal) ▸ roundest
    · intro roundest'
      rw [roundest.eq roundest' same]
  refine ⟨⟨a, shown, roundest, same⟩, itself, fun small => itself.2 (isRoundest_of_small small),
    fun b lowB highB => ⟨fun equal => ?_, fun equal => ?_⟩⟩
  · obtain ⟨c, -, sameB, textB⟩ := exists_roundest (within lowB highB)
    rw [shown, Cell.coerce_integer_text, textB] at equal
    rw [← sameB, ← same, Int.repr_injective (Value.text.inj equal)]
  · rw [Cell.coerce_integer_text, Cell.coerce_integer_text, equal]

/-- Beyond the fifty-third power of two an integer can get the text of its neighbour. -/
theorem largeIntegers_share_text :
    (Cell.integer 9007199254740993).coerce .text ≠ .text (toString (9007199254740993 : ℤ)) ∧
      (Cell.integer 9007199254740993).coerce .text = (Cell.integer 9007199254740992).coerce .text ∧
      (Cell.integer 9007199254740992).coerce .text = .text (toString (9007199254740992 : ℤ)) := by
  decide +kernel

/-- The number after the fifty-third power of two is not the roundest with its double, and is
not kept; the opposite of the power is. -/
theorem powerOfTwo_keeps_text :
    (-2 ^ 127 ≤ (9007199254740993 : ℤ) ∧ (9007199254740993 : ℤ) < 2 ^ 127) ∧
      ¬IsRoundest 9007199254740993 ∧
      (Cell.integer (-9007199254740992)).coerce .text =
        .text (toString (-9007199254740992 : ℤ)) := by
  have range : -2 ^ 127 ≤ (9007199254740993 : ℤ) ∧ (9007199254740993 : ℤ) < 2 ^ 127 := by decide
  have other : ¬(Cell.integer 9007199254740993).coerce .text =
      .text (toString (9007199254740993 : ℤ)) := by decide +kernel
  exact ⟨range, mt (integers_as_text 9007199254740993 range.1 range.2).2.1.2 other,
    (integers_as_text (-9007199254740992) (by decide) (by decide)).2.2.1 (by decide)⟩

/-- As a text, a cell with a date or a time is the number of days or of units that it holds,
written as an integer is. So it is never the date itself, even where there is one. -/
theorem dates_as_text {cell : Cell} {count : ℤ} (temporal : cell.count? = some count) :
    cell.coerce .text = (Cell.integer count).coerce .text ∧
      (count.natAbs ≤ 2 ^ 53 → cell.coerce .text = .text (toString count)) ∧
      ∀ t : DateTime, cell.coerce .text ≠ .text (t.text 0) := by
  have shown := Cell.coerce_text_of_count temporal
  refine ⟨shown, fun small => ?_, fun t same => ?_⟩
  · obtain ⟨a, roundest, same, text⟩ := exists_roundest (small.trans (by decide : _ ≤ 2 ^ 127))
    rw [shown, Cell.coerce_integer_text, text, roundest.eq (isRoundest_of_small small) same]
  · rw [shown, Cell.coerce_integer_text] at same
    exact no_letter_in_text _ (Value.text.inj same ▸ letter_in_text t 0)

/-- The fifteenth of January 2024 is a date to a field of dates, and a number of days to a
field of texts. -/
theorem daysOfDate_are_text :
    (Cell.date 19737).coerce .date = .date ⟨19737, 0, 0⟩ ∧
      (DateTime.mk 19737 0 0).text 0 = "2024-01-15T00:00:00" ∧
      (Cell.date 19737).coerce .text ≠ .text "2024-01-15T00:00:00" := by
  decide +kernel

theorem noon_is_text :
    (Cell.timeOfDay 43200000000000).count? = some 43200000000000 ∧
      (Cell.timeOfDay 43200000000000).coerce .date = .date ⟨0, 43200, 0⟩ ∧
      (Cell.timeOfDay 43200000000000).coerce .text = .text "43200000000000" ∧
      (Cell.timeOfDay 43200000000000).coerce .text ≠ .text ((DateTime.mk 0 43200 0).text 0) := by
  have noon := @dates_as_text (.timeOfDay 43200000000000) _ rfl
  exact ⟨rfl, by decide, noon.2.1 (by decide), noon.2.2 _⟩

end ChartQuery
