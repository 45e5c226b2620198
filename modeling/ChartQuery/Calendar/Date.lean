/-!
# Dates

A date is a year, a month and a day of the proleptic Gregorian calendar, or,
for computation, the number of days since 1 January 1970. The calendar repeats
every 400 years, an era of 146097 days, and the computation counts years from
March, so that a leap day is the last day of its year.
-/

namespace ChartQuery

structure Date where
  year : Int
  month : Nat
  day : Nat
  deriving DecidableEq, Repr

namespace Date

def isLeapYear (year : Int) : Bool :=
  year % 4 == 0 && (year % 100 != 0 || year % 400 == 0)

def daysInMonth (year : Int) (month : Nat) : Nat :=
  match month with
  | 2 => if isLeapYear year then 29 else 28
  | 4 | 6 | 9 | 11 => 30
  | _ => 31

/-- The first and the last year that a date can have. -/
def firstYear : Int := -262143

def lastYear : Int := 262142

/-- A date of the calendar, in the years that dates can have. -/
def IsValid (date : Date) : Prop :=
  firstYear ≤ date.year ∧ date.year ≤ lastYear ∧ 1 ≤ date.month ∧ date.month ≤ 12 ∧
    1 ≤ date.day ∧ date.day ≤ daysInMonth date.year date.month

instance (date : Date) : Decidable date.IsValid :=
  inferInstanceAs (Decidable (_ ∧ _))

/-- The days of the first `months` months of a year that begins in March. -/
def daysBeforeMonth (months : Int) : Int := (153 * months + 2) / 5

def daysBeforeYear (years : Int) : Int := 365 * years + years / 4 - years / 100

/-- Days from the first day of March of the year zero to the first day of 1970. -/
def epochOffset : Int := 719468

def eraDays : Int := 146097

/-- The number of days from 1 January 1970 to a date. -/
def toDays (date : Date) : Int :=
  let early : Bool := date.month ≤ 2
  let year := if early then date.year - 1 else date.year
  let month : Int := if early then date.month + 9 else date.month - 3
  let dayOfYear := daysBeforeMonth month + date.day - 1
  year / 400 * eraDays + (daysBeforeYear (year % 400) + dayOfYear) - epochOffset

/-- The year of an era in which a day of the era lies, counted in centuries of
36524 days, spans of four years of 1461 days, and years of 365 days. The last
century and the last year of a span are a day longer. -/
def yearOfEra (day : Int) : Int :=
  let century := min 3 (day / 36524)
  let day := day - 36524 * century
  let span := day / 1461
  let day := day - 1461 * span
  100 * century + 4 * span + min 3 (day / 365)

def ofDays (days : Int) : Date :=
  let shifted := days + epochOffset
  let dayOfEra := shifted % eraDays
  let year := yearOfEra dayOfEra
  let dayOfYear := dayOfEra - daysBeforeYear year
  let month := (5 * dayOfYear + 2) / 153
  let early := 10 ≤ month
  { year := year + shifted / eraDays * 400 + if early then 1 else 0
    month := (if early then month - 9 else month + 3).toNat
    day := (dayOfYear - daysBeforeMonth month + 1).toNat }

def firstDay : Int := -96465292

def lastDay : Int := 95026236

example : toDays ⟨firstYear, 1, 1⟩ = firstDay := by decide
example : toDays ⟨lastYear, 12, 31⟩ = lastDay := by decide
example : ofDays 0 = ⟨1970, 1, 1⟩ := by decide
example : toDays ⟨2000, 2, 29⟩ = 11016 := by decide

def InRange (days : Int) : Prop := firstDay ≤ days ∧ days ≤ lastDay

instance (days : Int) : Decidable (InRange days) :=
  inferInstanceAs (Decidable (_ ∧ _))

theorem yearOfEra_bounds {day : Int} (low : 0 ≤ day) (high : day < eraDays) :
    0 ≤ yearOfEra day ∧ yearOfEra day < 400 ∧
      0 ≤ day - daysBeforeYear (yearOfEra day) ∧
      day - daysBeforeYear (yearOfEra day) ≤ 365 := by
  simp only [yearOfEra, daysBeforeYear, eraDays] at *
  generalize hc : min 3 (day / 36524) = c
  generalize hd : day - 36524 * c = ofCentury
  generalize hq : ofCentury / 1461 = q
  generalize he : ofCentury - 1461 * q = ofSpan
  generalize hy : min 3 (ofSpan / 365) = y
  have c_bounds : 0 ≤ c ∧ c ≤ 3 := by omega
  have century_bounds : 0 ≤ ofCentury ∧ ofCentury ≤ 36524 ∧ (c ≤ 2 → ofCentury < 36524) := by
    rcases (by omega : c = 0 ∨ c = 1 ∨ c = 2 ∨ c = 3) with rfl | rfl | rfl | rfl <;> omega
  have q_bounds : 0 ≤ q ∧ q ≤ 24 := by omega
  have span_bounds : 0 ≤ ofSpan ∧ ofSpan ≤ 1460 := by omega
  have y_bounds : 0 ≤ y ∧ y ≤ 3 ∧ 0 ≤ ofSpan - 365 * y ∧ ofSpan - 365 * y ≤ 365 := by
    rcases (by omega : y = 0 ∨ y = 1 ∨ y = 2 ∨ y = 3) with rfl | rfl | rfl | rfl <;> omega
  have fourths : (100 * c + 4 * q + y) / 4 = 25 * c + q := by omega
  have hundredths : (100 * c + 4 * q + y) / 100 = c := by omega
  rw [fourths, hundredths]
  omega

theorem toDays_ofDays (days : Int) : toDays (ofDays days) = days := by
  have low : 0 ≤ (days + epochOffset) % eraDays := by simp only [epochOffset, eraDays]; omega
  have high : (days + epochOffset) % eraDays < eraDays := by
    simp only [epochOffset, eraDays]; omega
  have bounds := yearOfEra_bounds low high
  have whole := Int.mul_ediv_add_emod (days + epochOffset) eraDays
  obtain ⟨day, hday⟩ : ∃ day, day = (days + epochOffset) % eraDays := ⟨_, rfl⟩
  obtain ⟨era, hera⟩ : ∃ era, era = (days + epochOffset) / eraDays := ⟨_, rfl⟩
  obtain ⟨year, hyear⟩ : ∃ year, year = yearOfEra day := ⟨_, rfl⟩
  obtain ⟨n, hn⟩ : ∃ n, n = day - daysBeforeYear year := ⟨_, rfl⟩
  obtain ⟨month, hmonth⟩ : ∃ month, month = (5 * n + 2) / 153 := ⟨_, rfl⟩
  simp only [← hday, ← hera, ← hyear, ← hn] at bounds whole
  have month_bounds : 0 ≤ month ∧ month ≤ 11 := by omega
  have day_bound : 0 ≤ n - daysBeforeMonth month := by simp only [daysBeforeMonth]; omega
  simp only [toDays, ofDays, ← hday, ← hera, ← hyear, ← hn, ← hmonth]
  by_cases early : 10 ≤ month
  · have e1 : ((month - 9).toNat : Int) = month - 9 := by omega
    have e2 : (month - 9).toNat ≤ 2 := by omega
    have e3 : ((n - daysBeforeMonth month + 1).toNat : Int) = n - daysBeforeMonth month + 1 := by
      omega
    have e4 : (year + era * 400 + 1 - 1) / 400 = era := by omega
    have e5 : (year + era * 400 + 1 - 1) % 400 = year := by omega
    have e6 : month - 9 + 9 = month := by omega
    simp only [early, e2, decide_true, if_true, e1, e3, e4, e5, e6]
    simp only [eraDays, epochOffset] at *
    omega
  · have e1 : ((month + 3).toNat : Int) = month + 3 := by omega
    have e2 : ¬ (month + 3).toNat ≤ 2 := by omega
    have e3 : ((n - daysBeforeMonth month + 1).toNat : Int) = n - daysBeforeMonth month + 1 := by
      omega
    have e4 : (year + era * 400 + 0) / 400 = era := by omega
    have e5 : (year + era * 400 + 0) % 400 = year := by omega
    have e6 : month + 3 - 3 = month := by omega
    simp only [early, e2, decide_false, Bool.false_eq_true, if_false, e1, e3, e4, e5, e6]
    simp only [eraDays, epochOffset] at *
    omega

end Date

end ChartQuery
