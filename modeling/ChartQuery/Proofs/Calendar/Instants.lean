import ChartQuery.Data.Value
import ChartQuery.Proofs.Calendar.Succession

/-!
# Times as instants

The way from one time to another goes through the calendar from date to date, and through
the seconds and nanoseconds of the day. It has a length, which is the difference of two
counts. Cells hold such lengths, in days or in units of a second, counted from the first
midnight of 1970, and however a time is stored, it is the same time.

Main statement: `temporal_cells_agree`.
-/

namespace ChartQuery

namespace Date

theorem inRange_iff_year {days : Int} :
    InRange days ↔ firstYear ≤ (ofDays days).year ∧ (ofDays days).year ≤ lastYear := by
  refine ⟨ofDays_year_bounds, fun ⟨low, high⟩ => ?_⟩
  obtain ⟨⟨first, last⟩, begun, fits⟩ := ofDays_isCivil days
  have count := toDays_ofDays days
  have length := daysInMonth_le (ofDays days).year first last
  rw [toDays_eq] at count
  simp only [InRange, firstDay, lastDay, firstYear, lastYear, marchYear, monthIndex, daysBeforeYear,
    daysBeforeMonth, eraDays, epochOffset] at *
  split at count <;> omega

end Date

namespace DateTime

/-- The first midnight of 1970. -/
def epoch : DateTime := ⟨0, 0, 0⟩

/-- A number of nanoseconds leads from one time to another. If it is negative, it leads
back. -/
def IsAfter (nanoseconds : Int) (later earlier : DateTime) : Prop :=
  ∃ days, Date.IsDaysAfter days later.date earlier.date ∧
    nanoseconds = (days * secondsPerDay + (later.second - earlier.second)) * nanosecondsPerSecond +
      (later.nanosecond - earlier.nanosecond)

/-- Nanoseconds from the first midnight of 1970. -/
def elapsed (t : DateTime) : Int :=
  (t.day * secondsPerDay + t.second) * nanosecondsPerSecond + t.nanosecond

theorem isAfter_iff {nanoseconds : Int} {later earlier : DateTime} :
    IsAfter nanoseconds later earlier ↔ later.elapsed = earlier.elapsed + nanoseconds := by
  have days (n : Int) : Date.IsDaysAfter n later.date earlier.date ↔
      later.day = earlier.day + n := by
    rw [date, date, Date.isDaysAfter_iff (Date.ofDays_isCivil _) (Date.ofDays_isCivil _),
      Date.toDays_ofDays, Date.toDays_ofDays]
  simp only [IsAfter, days, elapsed, secondsPerDay, nanosecondsPerSecond]
  constructor
  · rintro ⟨n, same, rfl⟩
    rw [same]
    omega
  · intro same
    exact ⟨later.day - earlier.day, by omega, by omega⟩

/-- A time that the calendar has, outside leap seconds, and that is a number of nanoseconds
after the first midnight of 1970. -/
structure IsMoment (nanoseconds : Int) (t : DateTime) : Prop where
  year : Date.firstYear ≤ t.date.year ∧ t.date.year ≤ Date.lastYear
  second : t.second < 86400
  nanosecond : t.nanosecond < 1000000000
  after : IsAfter nanoseconds t epoch

/-- A number of nanoseconds is split into days, seconds and nanoseconds in one way. -/
theorem isMoment_iff {n : Int} {t : DateTime} :
    IsMoment n t ↔ t = ofNanoseconds n ∧ Date.InRange t.day := by
  have start : epoch.elapsed = 0 := rfl
  constructor
  · rintro ⟨year, second, nanosecond, after⟩
    rw [isAfter_iff, start, Int.zero_add] at after
    refine ⟨?_, Date.inRange_iff_year.2 year⟩
    obtain ⟨day, s, ns⟩ := t
    simp only [elapsed, secondsPerDay, nanosecondsPerSecond] at after second nanosecond
    simp only [ofNanoseconds, secondsPerDay, nanosecondsPerSecond, DateTime.mk.injEq]
    omega
  · rintro ⟨rfl, range⟩
    refine ⟨Date.ofDays_year_bounds range, ?_, ?_, ?_⟩
    · simp only [ofNanoseconds, secondsPerDay, nanosecondsPerSecond]
      omega
    · simp only [ofNanoseconds, nanosecondsPerSecond]
      omega
    · rw [isAfter_iff, start, Int.zero_add]
      simp only [elapsed, ofNanoseconds, secondsPerDay, nanosecondsPerSecond]
      omega

/-- A count of units is the time that is so many nanoseconds after the first midnight. -/
theorem ofCount?_eq_some_iff {unit : TimeUnit} {count : Int} {t : DateTime} :
    ofCount? unit count = some t ↔ IsMoment (count * unit.nanoseconds) t := by
  rw [isMoment_iff, ofCount?, inRange?]
  split
  · rename_i range
    rw [Option.some.injEq, eq_comm]
    exact (and_iff_left_of_imp fun same => same ▸ range).symm
  · rename_i range
    refine iff_of_false nofun ?_
    rintro ⟨rfl, inside⟩
    exact range inside

theorem exists_ofCount?_nanosecond {count : Int} (low : Cell.leastInteger ≤ count)
    (high : count ≤ Cell.greatestInteger) : ∃ t, ofCount? .nanosecond count = some t := by
  refine ⟨_, if_pos ?_⟩
  simp only [ofNanoseconds, TimeUnit.nanoseconds, Date.InRange, Date.firstDay, Date.lastDay,
    secondsPerDay, nanosecondsPerSecond]
  simp only [Cell.leastInteger, Cell.greatestInteger] at low high
  omega

theorem ofDay?_eq (day : Int) : ofDay? day = ofCount? .millisecond (day * 86400000) := by
  have whole : ofNanoseconds (day * 86400000 * TimeUnit.millisecond.nanoseconds) = ⟨day, 0, 0⟩ := by
    simp only [ofNanoseconds, TimeUnit.nanoseconds, secondsPerDay, nanosecondsPerSecond,
      DateTime.mk.injEq]
    omega
  rw [ofDay?, ofCount?, whole]

theorem ofTimeOfDay?_eq (n : Int) :
    ofTimeOfDay? n =
      if 0 ≤ n ∧ n < 86400 * 1000000000 then ofCount? .nanosecond n else none := by
  have inDay : isTimeOfDay n = true ↔ 0 ≤ n ∧ n < 86400 * 1000000000 := by
    rw [isTimeOfDay, Bool.and_eq_true, decide_eq_true_eq, decide_eq_true_eq]
    rfl
  by_cases time : 0 ≤ n ∧ n < 86400 * 1000000000
  · have range : Date.InRange (ofNanoseconds n).day := by
      simp only [ofNanoseconds, Date.InRange, Date.firstDay, Date.lastDay, secondsPerDay,
        nanosecondsPerSecond]
      omega
    rw [if_pos time, ofTimeOfDay?, if_pos (inDay.2 time), ofCount?, TimeUnit.nanoseconds,
      Int.mul_one, inRange?, if_pos range]
  · rw [if_neg time, ofTimeOfDay?, if_neg (mt inDay.1 time)]

end DateTime

namespace Cell

theorem coerce_date_eq_date {cell : Cell} {t : DateTime} :
    cell.coerce .date = .date t ↔ cell.dateTime? = some t := by
  cases read : cell.dateTime? <;> simp [coerce, toDate, read]

theorem coerce_date_eq_null {cell : Cell} : cell.coerce .date = .null ↔ cell.dateTime? = none := by
  cases read : cell.dateTime? <;> simp [coerce, toDate, read]

end Cell

/-- A cell with a count of units is the time of the calendar that is exactly so many units
after the first midnight of 1970, before it as well, and it is no date if the calendar has
no such time, which cannot be with units of a nanosecond. A cell with a day is the same
date as the milliseconds of so many days. A cell with a time of day is the same date as so
many nanoseconds, and none if they are no time of a day. -/
theorem temporal_cells_agree :
    (∀ (unit : TimeUnit) (count : Int),
      Cell.leastInteger ≤ count → count ≤ Cell.greatestInteger →
        (∀ t, (Cell.dateTime unit count).coerce .date = .date t ↔
          DateTime.IsMoment (count * unit.nanoseconds) t) ∧
        ((Cell.dateTime unit count).coerce .date = .null ↔
          ∀ t, ¬DateTime.IsMoment (count * unit.nanoseconds) t) ∧
        (unit = .nanosecond → ∃ t, (Cell.dateTime unit count).coerce .date = .date t)) ∧
    (∀ days : Int, (Cell.date days).coerce .date =
      (Cell.dateTime .millisecond (days * 86400000)).coerce .date) ∧
    ∀ n : Int, (Cell.timeOfDay n).coerce .date =
      if 0 ≤ n ∧ n < 86400 * 1000000000 then (Cell.dateTime .nanosecond n).coerce .date
      else .null := by
  refine ⟨fun unit count low high => ⟨fun t => ?_, ?_, ?_⟩, fun days => ?_, fun n => ?_⟩
  · rw [Cell.coerce_date_eq_date]
    exact DateTime.ofCount?_eq_some_iff
  · rw [Cell.coerce_date_eq_null, Option.eq_none_iff_forall_ne_some]
    exact forall_congr' fun t => not_congr DateTime.ofCount?_eq_some_iff
  · rintro rfl
    obtain ⟨t, read⟩ := DateTime.exists_ofCount?_nanosecond low high
    exact ⟨t, Cell.coerce_date_eq_date.2 read⟩
  · simp only [Cell.coerce, Cell.toDate, Cell.dateTime?, DateTime.ofDay?_eq]
  · simp only [Cell.coerce, Cell.toDate, Cell.dateTime?, DateTime.ofTimeOfDay?_eq]
    split <;> rfl

/-- The last millisecond before 1970, and the last microsecond of 64 bits, which is some
290000 years ahead and outside the calendar. -/
theorem millisecondBefore_agrees :
    (Cell.dateTime .millisecond (-1)).coerce .date = .date ⟨-1, 86399, 999000000⟩ ∧
      DateTime.IsMoment (-1000000) ⟨-1, 86399, 999000000⟩ ∧
    (Cell.dateTime .microsecond Cell.greatestInteger).coerce .date = .null ∧
      ∀ t, ¬DateTime.IsMoment (Cell.greatestInteger * 1000) t := by
  have least : Cell.leastInteger ≤ Cell.greatestInteger := by decide
  have became : (Cell.dateTime .millisecond (-1)).coerce .date = .date ⟨-1, 86399, 999000000⟩ := by
    decide
  have outside : (Cell.dateTime .microsecond Cell.greatestInteger).coerce .date = .null := by
    decide
  exact ⟨became, ((temporal_cells_agree.1 .millisecond (-1) (by decide) (by decide)).1 _).1 became,
    outside, (temporal_cells_agree.1 .microsecond _ least (Int.le_refl _)).2.1.1 outside⟩

end ChartQuery
