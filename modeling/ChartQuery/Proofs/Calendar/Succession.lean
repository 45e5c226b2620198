import ChartQuery.Proofs.Calendar.Days

/-!
# One day after another

The calendar goes on from a date to the next day of the month, to the first day of the
next month, or to the first of January. Days are counted along with it, and a count and
a date tell each other. So a number of days leads from one date to another exactly if
their counts differ by that number.

Main statements: `ofDays_add` and `isDaysAfter_iff`.
-/

namespace ChartQuery.Date

def next (date : Date) : Date :=
  if date.day < daysInMonth date.year date.month then { date with day := date.day + 1 }
  else if date.month < 12 then ⟨date.year, date.month + 1, 1⟩
  else ⟨date.year + 1, 1, 1⟩

def skip : Nat → Date → Date
  | 0, date => date
  | days + 1, date => (skip days date).next

/-- A number of days leads from one date to another. If it is negative, it leads back. -/
def IsDaysAfter (days : Int) (later earlier : Date) : Prop :=
  ∃ m n : Nat, days = m - n ∧ skip n later = skip m earlier

section Counting

variable {year : Int} {month day : Nat}

/-- The day of the month is added to the days before the month. -/
theorem toDays_day (year : Int) (month day : Nat) :
    toDays ⟨year, month, day⟩ = toDays ⟨year, month, 0⟩ + day := by
  simp only [toDays]
  omega

/-- A month is followed by the next one. The year is counted on in March, after the leap
day. -/
theorem toDays_month (first : 1 ≤ month) (last : month < 12) :
    toDays ⟨year, month + 1, 0⟩ = toDays ⟨year, month, 0⟩ + daysInMonth year month := by
  have leap := @isLeapYear_iff year
  simp only [toDays, daysBeforeMonth, daysBeforeYear, eraDays, epochOffset]
  rcases (by omega : month = 1 ∨ month = 2 ∨ month = 3 ∨ month = 4 ∨ month = 5 ∨ month = 6 ∨
    month = 7 ∨ month = 8 ∨ month = 9 ∨ month = 10 ∨ month = 11)
    with rfl | rfl | rfl | rfl | rfl | rfl | rfl | rfl | rfl | rfl | rfl
  case inr.inl =>
    simp only [daysInMonth]
    cases common : isLeapYear year <;> simp [common] at leap ⊢ <;> omega
  all_goals simp [daysInMonth]; omega

/-- December is followed by January. -/
theorem toDays_year (year : Int) :
    toDays ⟨year + 1, 1, 0⟩ = toDays ⟨year, 12, 0⟩ + daysInMonth year 12 := by
  simp [toDays, daysBeforeMonth, daysInMonth]
  omega

/-- The next day is counted one more. -/
theorem toDays_next {date : Date} (h : date.IsCivil) : date.next.toDays = date.toDays + 1 := by
  obtain ⟨year, month, day⟩ := date
  obtain ⟨⟨first, last⟩, -, fits⟩ := h
  dsimp only at first last fits
  unfold next
  split
  · rw [toDays_day year month (day + 1), toDays_day year month day]
    omega
  · rename_i ends
    dsimp only at ends
    have full : day = daysInMonth year month := by omega
    rw [toDays_day year month day, full]
    split
    · rename_i early
      rw [toDays_day year (month + 1) 1, toDays_month first early]
      rfl
    · have december : month = 12 := by
        rename_i late
        dsimp only at late
        omega
      subst december
      rw [toDays_day (year + 1) 1 1, toDays_year]
      rfl

end Counting

theorem IsCivil.next {date : Date} (h : date.IsCivil) : date.next.IsCivil := by
  have longest (year : Int) (month : Nat) : 1 ≤ daysInMonth year month := by
    unfold daysInMonth
    repeat' split
    all_goals decide
  obtain ⟨⟨first, last⟩, begun, fits⟩ := h
  unfold Date.next
  split
  · exact ⟨⟨first, last⟩, by dsimp only; omega, by dsimp only; omega⟩
  · split
    · exact ⟨⟨by dsimp only; omega, by dsimp only; omega⟩, Nat.le_refl 1, longest _ _⟩
    · exact ⟨⟨Nat.le_refl 1, Nat.le_of_ble_eq_true rfl⟩, Nat.le_refl 1, longest _ _⟩

theorem IsCivil.skip {date : Date} (h : date.IsCivil) (days : Nat) : (skip days date).IsCivil := by
  induction days with
  | zero => exact h
  | succ days ih => exact ih.next

theorem toDays_skip {date : Date} (h : date.IsCivil) (days : Nat) :
    (skip days date).toDays = date.toDays + days := by
  induction days with
  | zero => simp [Date.skip]
  | succ days ih =>
    rw [Date.skip, toDays_next (h.skip days), ih]
    omega

theorem daysBeforeYear_succ_le {year year' : Int} (later : year < year') :
    daysBeforeYear (year + 1) ≤ daysBeforeYear year' := by
  simp only [daysBeforeYear]
  omega

namespace Placed

variable {days era year day : Int}

theorem era_unique {era' year' day' : Int} (h : Placed days era year day)
    (h' : Placed days era' year' day') : era = era' := by
  obtain ⟨whole, inEra, inYear, -⟩ := h
  obtain ⟨whole', inEra', inYear', -⟩ := h'
  simp only [daysBeforeYear, eraDays] at whole whole'
  omega

theorem year_le {year' day' : Int} (h : Placed days era year day)
    (h' : Placed days era year' day') : year' ≤ year := by
  obtain ⟨whole, inEra, inYear, leap⟩ := h
  obtain ⟨whole', inEra', inYear', -⟩ := h'
  rw [isLeapYear_iff] at leap
  refine Int.not_lt.1 fun later => ?_
  have begins := daysBeforeYear_succ_le later
  have step : daysBeforeYear (year + 1) = daysBeforeYear year + 365 +
      ((year + 1) / 4 - year / 4) - ((year + 1) / 100 - year / 100) := by
    simp only [daysBeforeYear]
    omega
  have last : day = 365 := by omega
  have leapYear := leap last
  omega

theorem unique {era' year' day' : Int} (h : Placed days era year day)
    (h' : Placed days era' year' day') : era = era' ∧ year = year' ∧ day = day' := by
  obtain rfl := h.era_unique h'
  obtain rfl := Int.le_antisymm (h'.year_le h) (h.year_le h')
  have whole := h.whole
  have whole' := h'.whole
  exact ⟨rfl, rfl, by omega⟩

end Placed

/-- The day of a year that begins in March tells the month. -/
theorem index_of_day {index day : Int} (zero : 0 ≤ day)
    (fits : day < daysBeforeMonth (index + 1) - daysBeforeMonth index) :
    (5 * (daysBeforeMonth index + day) + 2) / 153 = index := by
  simp only [daysBeforeMonth] at *
  omega

def monthIndex (month : Nat) : Int := if month ≤ 2 then month + 9 else month - 3

/-- The months that begin in March are as long as is counted, but for February, which ends
the year. -/
theorem daysInMonth_le (year : Int) {month : Nat} (first : 1 ≤ month) (last : month ≤ 12) :
    (daysInMonth year month : Int) ≤
      daysBeforeMonth (monthIndex month + 1) - daysBeforeMonth (monthIndex month) := by
  rcases (by omega : month = 1 ∨ month = 2 ∨ month = 3 ∨ month = 4 ∨ month = 5 ∨ month = 6 ∨
    month = 7 ∨ month = 8 ∨ month = 9 ∨ month = 10 ∨ month = 11 ∨ month = 12)
    with rfl | rfl | rfl | rfl | rfl | rfl | rfl | rfl | rfl | rfl | rfl | rfl
  case inr.inl =>
    simp only [daysInMonth]
    split <;> decide
  all_goals simp [daysInMonth, daysBeforeMonth, monthIndex]

/-- The year that begins in March, and in which a month lies. -/
def marchYear (year : Int) (month : Nat) : Int := if month ≤ 2 then year - 1 else year

theorem toDays_eq (year : Int) (month day : Nat) :
    toDays ⟨year, month, day⟩ = eraDays * (marchYear year month / 400) +
      (daysBeforeYear (marchYear year month % 400) +
        (daysBeforeMonth (monthIndex month) + (day - 1))) - epochOffset := by
  rw [Int.mul_comm, ← Int.add_sub_assoc]
  unfold toDays marchYear monthIndex
  by_cases early : month ≤ 2 <;>
    simp only [early, decide_true, decide_false, if_true, if_false, Bool.false_eq_true]

theorem IsCivil.placed {date : Date} (h : date.IsCivil) :
    ∃ era year day, Placed date.toDays era year day ∧ ofPlace era year day = date := by
  obtain ⟨year, month, day⟩ := date
  obtain ⟨⟨first, last⟩, begun, fits⟩ := h
  dsimp only at first last begun fits
  have length := daysInMonth_le year first last
  have index :
      (5 * (daysBeforeMonth (monthIndex month) + (day - 1)) + 2) / 153 = monthIndex month :=
    index_of_day (by omega) (by omega)
  have bounds : 0 ≤ monthIndex month ∧ (month ≠ 2 → monthIndex month ≤ 10) := by
    unfold monthIndex
    split <;> omega
  have february (same : month = 2) : monthIndex month = 11 ∧ day ≤ 29 ∧
      marchYear year month + 1 = year ∧ (day = 29 → isLeapYear year) := by
    subst same
    have fits : day ≤ if isLeapYear year then 29 else 28 := fits
    refine ⟨rfl, ?_, by simp [marchYear], fun leap => ?_⟩
    · split at fits <;> omega
    · split at fits
      · assumption
      · omega
  refine ⟨marchYear year month / 400, marchYear year month % 400,
    daysBeforeMonth (monthIndex month) + (day - 1), ⟨?_, by omega, ?_, fun last => ?_⟩, ?_⟩
  · rw [toDays_eq]
    omega
  · simp only [daysBeforeMonth] at length ⊢
    omega
  · have same : month = 2 := by
      simp only [daysBeforeMonth] at length last
      omega
    obtain ⟨index, -, whole, leap⟩ := february same
    rw [index] at last
    have year_eq : marchYear year month % 400 + marchYear year month / 400 * 400 + 1 = year := by
      omega
    rw [year_eq]
    exact leap (by simp only [daysBeforeMonth] at last; omega)
  · simp only [ofPlace, index, Date.mk.injEq]
    unfold monthIndex marchYear
    split <;> omega

theorem ofDays_toDays {date : Date} (h : date.IsCivil) : ofDays date.toDays = date := by
  obtain ⟨_, _, _, placed, same⟩ := h.placed
  obtain ⟨_, _, _, placed', same'⟩ := ofDays_eq_ofPlace date.toDays
  obtain ⟨rfl, rfl, rfl⟩ := placed'.unique placed
  rw [same', same]

/-- Counting on goes from each date to the next. -/
theorem ofDays_add (days : Int) (more : Nat) : ofDays (days + more) = skip more (ofDays days) := by
  have civil := ofDays_isCivil days
  have count := toDays_skip civil more
  rw [toDays_ofDays] at count
  rw [← count, ofDays_toDays (civil.skip more)]

theorem isDaysAfter_iff {days : Int} {later earlier : Date} (civil : later.IsCivil)
    (civil' : earlier.IsCivil) :
    IsDaysAfter days later earlier ↔ later.toDays = earlier.toDays + days := by
  constructor
  · rintro ⟨m, n, rfl, same⟩
    have count := congrArg toDays same
    rw [toDays_skip civil, toDays_skip civil'] at count
    omega
  · intro count
    refine ⟨days.toNat, (-days).toNat, by omega, ?_⟩
    rw [← ofDays_toDays (civil.skip _), ← ofDays_toDays (civil'.skip _), toDays_skip civil,
      toDays_skip civil']
    congr 1
    omega

end ChartQuery.Date
