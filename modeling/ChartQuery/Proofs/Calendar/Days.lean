import ChartQuery.Calendar.Date

/-!
# Days of the calendar

A count of days in range is a date of the calendar: its month is one of the twelve, its
day is in the month, and its year is one that dates can have. A year that begins in March
has a last day more exactly if the next year is a leap year.

Main statement: `ofDays_isValid`.
-/

namespace ChartQuery.Date

theorem isLeapYear_iff {year : Int} :
    isLeapYear year = true ↔ year % 4 = 0 ∧ (year % 100 ≠ 0 ∨ year % 400 = 0) := by
  simp [isLeapYear]

/-- A day 365 is a leap day. It ends a span of four years, and it ends a century only at
the end of an era. -/
theorem yearOfEra_leap {day : Int} (low : 0 ≤ day) (high : day < eraDays)
    (last : day - daysBeforeYear (yearOfEra day) = 365) (era : Int) :
    isLeapYear (yearOfEra day + era * 400 + 1) := by
  rw [isLeapYear_iff]
  simp only [yearOfEra, daysBeforeYear, eraDays] at *
  generalize hc : min 3 (day / 36524) = c at *
  generalize hd : day - 36524 * c = ofCentury at *
  generalize hq : ofCentury / 1461 = q at *
  generalize he : ofCentury - 1461 * q = ofSpan at *
  generalize hy : min 3 (ofSpan / 365) = y at *
  have c_bounds : 0 ≤ c ∧ c ≤ 3 := by omega
  have century_bounds : 0 ≤ ofCentury ∧ ofCentury ≤ 36524 ∧ (c ≤ 2 → ofCentury < 36524) := by
    rcases (by omega : c = 0 ∨ c = 1 ∨ c = 2 ∨ c = 3) with rfl | rfl | rfl | rfl <;> omega
  have q_bounds : 0 ≤ q ∧ q ≤ 24 := by omega
  have fourths : (100 * c + 4 * q + y) / 4 = 25 * c + q := by omega
  have hundredths : (100 * c + 4 * q + y) / 100 = c := by omega
  rw [fourths, hundredths] at last
  have third : y = 3 ∧ ofSpan = 1460 := by omega
  have whole : q = 24 → c = 3 := by omega
  omega

/-- A date of the calendar, in any year. -/
structure IsCivil (date : Date) : Prop where
  month : 1 ≤ date.month ∧ date.month ≤ 12
  day : 1 ≤ date.day ∧ date.day ≤ daysInMonth date.year date.month

/-- Where a day lies: in an era, in a year of the era, and at a day of that year. -/
structure Placed (days era year day : Int) : Prop where
  whole : eraDays * era + (daysBeforeYear year + day) = days + epochOffset
  inEra : 0 ≤ year ∧ year < 400
  inYear : 0 ≤ day ∧ day ≤ 365
  leap : day = 365 → isLeapYear (year + era * 400 + 1)

def ofPlace (era year day : Int) : Date :=
  let month := (5 * day + 2) / 153
  { year := year + era * 400 + if 10 ≤ month then 1 else 0
    month := (if 10 ≤ month then month - 9 else month + 3).toNat
    day := (day - daysBeforeMonth month + 1).toNat }

theorem ofDays_eq_ofPlace (days : Int) :
    ∃ era year day, Placed days era year day ∧ ofDays days = ofPlace era year day := by
  have low : 0 ≤ (days + epochOffset) % eraDays := by simp only [epochOffset, eraDays]; omega
  have high : (days + epochOffset) % eraDays < eraDays := by
    simp only [epochOffset, eraDays]; omega
  obtain ⟨zero, last, first, longest⟩ := yearOfEra_bounds low high
  have whole := Int.mul_ediv_add_emod (days + epochOffset) eraDays
  refine ⟨_, _, _, ⟨?_, ⟨zero, last⟩, ⟨first, longest⟩, fun leap => ?_⟩, rfl⟩
  · omega
  · exact yearOfEra_leap low high leap _

namespace Placed

variable {days era year day : Int}

/-- The months that begin in March have 31, 30, 31, 30, 31 days, twice and once more, and
what is left are the 28 or 29 days of February. -/
theorem day_le_daysInMonth (h : Placed days era year day) :
    day - daysBeforeMonth ((5 * day + 2) / 153) + 1 ≤
      daysInMonth (ofPlace era year day).year (ofPlace era year day).month := by
  have index_bounds : 0 ≤ (5 * day + 2) / 153 ∧ (5 * day + 2) / 153 ≤ 11 := by
    have := h.inYear
    omega
  have leap := h.leap
  simp only [ofPlace]
  generalize month : (5 * day + 2) / 153 = index at *
  by_cases february : index = 11
  · subst february
    have days : daysInMonth (year + era * 400 + 1) ((11 : Int) - 9).toNat =
        if isLeapYear (year + era * 400 + 1) then 29 else 28 := rfl
    simp only [daysBeforeMonth, Int.reduceLE, if_true, days]
    have := h.inYear
    split <;> rename_i common
    · omega
    · have short : day ≠ 365 := fun last => common (leap last)
      omega
  · rcases (by omega : index = 0 ∨ index = 1 ∨ index = 2 ∨ index = 3 ∨ index = 4 ∨ index = 5 ∨
      index = 6 ∨ index = 7 ∨ index = 8 ∨ index = 9 ∨ index = 10)
      with rfl | rfl | rfl | rfl | rfl | rfl | rfl | rfl | rfl | rfl | rfl <;>
      simp only [daysBeforeMonth, Int.reduceLE, if_true, if_false] <;>
      simp [daysInMonth] <;> omega

theorem year_bounds (h : Placed days era year day) (range : InRange days) :
    firstYear ≤ (ofPlace era year day).year ∧ (ofPlace era year day).year ≤ lastYear := by
  obtain ⟨whole, ⟨zero, last⟩, ⟨first, longest⟩, -⟩ := h
  simp only [ofPlace, InRange, firstDay, lastDay, daysBeforeYear, eraDays, epochOffset, firstYear,
    lastYear] at *
  have era_bounds : -656 ≤ era ∧ era ≤ 655 := by omega
  rcases (by omega : era = -656 ∨ era = 655 ∨ -655 ≤ era ∧ era ≤ 654) with rfl | rfl | inner
  · split <;> omega
  · split <;> omega
  · split <;> omega

theorem isCivil (h : Placed days era year day) : (ofPlace era year day).IsCivil := by
  have fits := h.day_le_daysInMonth
  have bounds := h.inYear
  have index_bounds : 0 ≤ (5 * day + 2) / 153 ∧ (5 * day + 2) / 153 ≤ 11 := by omega
  have begins : daysBeforeMonth ((5 * day + 2) / 153) ≤ day := by
    simp only [daysBeforeMonth]
    omega
  refine ⟨?_, ?_, ?_⟩
  · simp only [ofPlace]
    split <;> omega
  · simp only [ofPlace]
    omega
  · have same : ((ofPlace era year day).day : Int) =
        day - daysBeforeMonth ((5 * day + 2) / 153) + 1 := by
      simp only [ofPlace]
      omega
    omega

end Placed

theorem ofDays_isCivil (days : Int) : (ofDays days).IsCivil := by
  obtain ⟨era, year, day, placed, same⟩ := ofDays_eq_ofPlace days
  exact same ▸ placed.isCivil

theorem ofDays_year_bounds {days : Int} (range : InRange days) :
    firstYear ≤ (ofDays days).year ∧ (ofDays days).year ≤ lastYear := by
  obtain ⟨era, year, day, placed, same⟩ := ofDays_eq_ofPlace days
  exact same ▸ placed.year_bounds range

theorem ofDays_isValid {days : Int} (range : InRange days) : (ofDays days).IsValid := by
  obtain ⟨first, last⟩ := ofDays_year_bounds range
  obtain ⟨month, day⟩ := ofDays_isCivil days
  exact ⟨first, last, month.1, month.2, day.1, day.2⟩

end ChartQuery.Date
