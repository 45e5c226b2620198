import ChartQuery.Proofs.Calendar.Layouts
import ChartQuery.Proofs.Calendar.Validity
import ChartQuery.Proofs.Data.Coercion
import ChartQuery.Proofs.Sql.Sources

/-!
# Dates that are written are read back

A date is written with all its fields, a leap second as the sixtieth, and three digits of
the fraction. The text is not one of the strict layout, since it has no offset, and not one
of the second layout, since `T` is no white space. The third layout takes all of it, whatever
the year is, and gives the date back to the millisecond.

Main statement: `written_dates_read_back`.
-/

namespace ChartQuery

open Text

namespace DateTime

open Reading

variable {t : DateTime} {places : Nat} {separator : Char} {rest : List Char}

theorem strict_fails (h : t.IsValid) (stands : separator = 'T' ∨ separator = ' ')
    (fits : places ≤ 9) :
    readItems? {} (strictDate ++ .separator :: strictTime ++ [.strictOffset])
      (t.written separator places) = none := by
  by_cases plain : 0 ≤ t.date.year ∧ t.date.year ≤ 9999
  · have read := strict_reads h plain.1 plain.2 stands fits endsSecond_nil
    rw [List.append_nil] at read
    rw [read]
    rfl
  · have sign : (if t.date.year < 0 then '-' else '+').isDigit = false := by
      split <;> rfl
    rw [written, dateText, yearText, if_neg plain]
    exact readItems?_none (readItem?_notDigit sign)

theorem minusSeconds?_zero {t : DateTime} (range : Date.InRange t.day) (second : t.second < 86400) :
    t.minusSeconds? 0 = some t := by
  have day : ((t.second : Int) - 0) / secondsPerDay = 0 := by
    simp only [secondsPerDay]
    omega
  have rest : (((t.second : Int) - 0) % secondsPerDay).toNat = t.second := by
    simp only [secondsPerDay]
    omega
  simp only [minusSeconds?, inRange?, day, rest, Int.add_zero, range, if_true]

/-- Without an offset, a written time is the time, but for what is behind its places. -/
theorem toDateTime?_local (h : t.IsValid) (fits : places ≤ 9) :
    (t.reading places).toDateTime? = some (t.cut places) := by
  have read := toDateTime?_reading h fits 0 (by decide)
  rw [minusSeconds?_zero (t := t.cut places) h.1 h.2.1] at read
  exact read

/-- A written time begins with a sign or a digit, and ends with a digit. -/
theorem written_begins (t : DateTime) (separator : Char) (places : Nat) :
    ∃ c later, t.written separator places = c :: later ∧ isSpace c = false := by
  obtain ⟨c, later, begins, solid⟩ := head_yearText t.date.year
  rw [written, dateText, begins]
  exact ⟨c, _, rfl, solid⟩

theorem written_ends (t : DateTime) (separator : Char) (places : Nat) :
    ∃ front c, t.written separator places = front ++ [c] ∧ c.isDigit := by
  unfold written fractionText
  split
  · obtain ⟨front, c, ends, digit⟩ :=
      padded_eq_concat 2 (t.second % 60 + t.nanosecond / 1000000000)
    refine ⟨dateText t.date ++ separator :: (padded 2 (t.second / 3600) ++ ':' ::
      (padded 2 (t.second / 60 % 60) ++ ':' :: front)), c, ?_, digit⟩
    simp [timeText, ends]
  · obtain ⟨front, c, ends, digit⟩ := padded_eq_concat places (t.fraction places)
    exact ⟨dateText t.date ++ separator :: (t.timeText ++ '.' :: front), c, by simp [ends], digit⟩

theorem firm_written (t : DateTime) (separator : Char) (places : Nat) :
    Firm (String.ofList (t.written separator places)) where
  begins := by simpa using written_begins t separator places
  ends := by
    obtain ⟨front, c, ends, digit⟩ := written_ends t separator places
    exact ⟨front, c, by rw [String.toList_ofList, ends], isSpace_of_isDigit digit⟩

theorem ofText?_firm {text : List Char} (firm : Firm (String.ofList text)) :
    ofText? (String.ofList text) =
      layouts.findSome? fun layout => (readItems? {} layout text).bind Reading.toDateTime? := by
  rw [ofText?, firm.trim_eq, String.toList_ofList]

theorem ofText?_text {t : DateTime} (h : t.IsValid) :
    ofText? (t.text 3) = some { t with nanosecond := t.nanosecond / 1000000 * 1000000 } := by
  have three : 3 ≤ 9 := by decide
  rw [← String.ofList_toList (s := t.text 3), toList_text, ofText?_firm (firm_written t 'T' 3)]
  simp only [layouts, List.findSome?_cons, strict_fails h (.inl rfl) three, spaced_fails,
    lettered_reads h three, Option.bind_none, Option.bind_some, toDateTime?_local h three]
  rfl

end DateTime

/-- Whatever cell becomes a date, the calendar has it. And whatever date the calendar has,
with leap seconds, it is written as a text which is read back as this date, but for what is
less than a thousandth of a second. -/
theorem written_dates_read_back :
    (∀ (cell : Cell) (type : FieldType) (t : DateTime), cell.coerce type = .date t → t.IsValid) ∧
    ∀ t : DateTime, t.IsValid → ∃ text, (Value.date t).toJson = .string text ∧
      DateTime.ofText? text = some { t with nanosecond := t.nanosecond / 1000000 * 1000000 } := by
  constructor
  · intro cell type t became
    have date : type = .date := by
      obtain null | kind := (cell.becomes_coerce type).kind
      · rw [became] at null
        cases null
      · rw [became] at kind
        exact (Option.some.inj kind).symm
    subst date
    cases read : cell.dateTime? with
    | none => simp [Cell.coerce, Cell.toDate, read] at became
    | some t' =>
      simp only [Cell.coerce, Cell.toDate, read, Option.map_some, Option.getD_some,
        Value.date.injEq] at became
      exact became ▸ Cell.dateTime?_isValid read
  · exact fun t valid => ⟨t.text 3, rfl, DateTime.ofText?_text valid⟩

/-- The leap second at the end of the year before the year zero loses what is less than a
thousandth of a second. A day that a cell holds is its first second. -/
theorem leapSecond_reads_back :
    DateTime.IsValid ⟨-719529, 0, 0⟩ ∧ DateTime.IsValid ⟨-719529, 86399, 1999999999⟩ ∧
    ∃ text, (Value.date ⟨-719529, 86399, 1999999999⟩).toJson = .string text ∧
      DateTime.ofText? text = some ⟨-719529, 86399, 1999000000⟩ := by
  have became : (Cell.date (-719529)).coerce .date = .date ⟨-719529, 0, 0⟩ := by decide
  have valid : DateTime.IsValid ⟨-719529, 86399, 1999999999⟩ :=
    ⟨by decide, by decide, .inr ⟨by decide, by decide⟩⟩
  exact ⟨written_dates_read_back.1 _ _ _ became, valid, written_dates_read_back.2 _ valid⟩

end ChartQuery
