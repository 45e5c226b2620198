import ChartQuery.Proofs.Calendar.Instants
import ChartQuery.Proofs.Calendar.Roundtrip

/-!
# Offsets from universal time

A text may end with an offset, and then its time is that much earlier in universal time.
The strict layout takes an offset with a colon. One with hours alone is left to the second
layout, which wants a blank before the time. A text without an offset is taken by neither,
and denotes the time as it stands.

Main statement: `offsets_denote_instants`.
-/

namespace ChartQuery

open Text

/-- Hours and minutes by which a local time is ahead of universal time, or behind it. -/
structure Offset where
  negative : Bool
  hours : Nat
  minutes : Nat
  hours_lt : hours < 24
  minutes_lt : minutes < 60

namespace Offset

def seconds (offset : Offset) : Int :=
  if offset.negative then -(offset.hours * 3600 + offset.minutes * 60)
  else offset.hours * 3600 + offset.minutes * 60

def sign (offset : Offset) : Char := if offset.negative then '-' else '+'

def text (offset : Offset) : List Char :=
  offset.sign :: (padded 2 offset.hours ++ ':' :: padded 2 offset.minutes)

def shortText (offset : Offset) : List Char := offset.sign :: padded 2 offset.hours

variable (offset : Offset)

theorem natAbs_seconds_lt : offset.seconds.natAbs < 86400 := by
  have hours := offset.hours_lt
  have minutes := offset.minutes_lt
  unfold seconds
  split <;> omega

theorem sign_cases : offset.sign = '+' ∧ offset.negative = false ∨
    offset.sign = '-' ∧ offset.negative = true := by
  cases negative : offset.negative <;> simp [sign, negative]

end Offset

namespace Reading

open Offset

variable {offset : Offset} {reading : Reading}

theorem endsSecond_sign (offset : Offset) (rest : List Char) :
    EndsSecond (offset.sign :: rest) := by
  rcases offset.sign_cases with ⟨sign, -⟩ | ⟨sign, -⟩ <;> rw [sign] <;>
    exact ⟨stops_cons (by decide), by simp⟩

theorem readExactly?_last {n : Nat} (small : n < 100) :
    readExactly? 2 (padded 2 n) = some (n, []) := by
  have read := readExactly?_padded (by decide : 0 < 2) small stops_nil
  rwa [List.append_nil] at read

theorem readOffset?_text (offset : Offset) :
    readOffset? true offset.text = some (offset.seconds, []) := by
  have hours : offset.hours < 100 := Nat.lt_trans offset.hours_lt (by decide)
  have minutes : offset.minutes < 100 := Nat.lt_trans offset.minutes_lt (by decide)
  have first : readExactly? 2 (padded 2 offset.hours ++ ':' :: padded 2 offset.minutes) =
      some (offset.hours, ':' :: padded 2 offset.minutes) :=
    readExactly?_padded (by decide) hours (stops_cons (by decide))
  rcases offset.sign_cases with ⟨sign, negative⟩ | ⟨sign, negative⟩ <;>
    simp [text, sign, negative, readOffset?, readSign?, first, readExactly?_last minutes,
      readMinutes?, offset.minutes_lt, seconds]

theorem readOffset?_strict_shortText (offset : Offset) :
    readOffset? true offset.shortText = none := by
  have hours : offset.hours < 100 := Nat.lt_trans offset.hours_lt (by decide)
  rcases offset.sign_cases with ⟨sign, -⟩ | ⟨sign, -⟩ <;>
    simp [shortText, sign, readOffset?, readSign?, readExactly?_last hours]

theorem readOffset?_shortText (whole : offset.minutes = 0) :
    readOffset? false offset.shortText = some (offset.seconds, []) := by
  have hours : offset.hours < 100 := Nat.lt_trans offset.hours_lt (by decide)
  have solid : isSpace '+' = false ∧ isSpace '-' = false := by decide
  rw [shortText, seconds, whole]
  rcases offset.sign_cases with ⟨sign, negative⟩ | ⟨sign, negative⟩ <;> rw [sign, negative] <;>
    simp only [readOffset?, solid, Bool.false_eq_true, if_false, not_false_eq_true,
      List.dropWhile_cons_of_neg, List.cons.injEq, Char.reduceEq, false_and, imp_self, implies_true,
      readSign?, readMinutes?, readExactly?_last hours, Option.bind_eq_bind, Option.bind_some,
      List.dropWhile_nil, List.isEmpty_nil, Bool.not_false, and_self, true_or, if_true] <;>
    rfl

end Reading

namespace DateTime

open Reading

variable {t u : DateTime} {places : Nat} {separator : Char} {offset : Offset}

/-- The times of four-digit years are far from both ends of the calendar. -/
theorem day_bounds (low : 0 ≤ t.date.year) (high : t.date.year ≤ 9999) :
    -800000 ≤ t.day ∧ t.day ≤ 3000000 := by
  obtain ⟨⟨first, last⟩, begun, fits⟩ := Date.ofDays_isCivil t.day
  have count := Date.toDays_ofDays t.day
  have length := Date.daysInMonth_le (Date.ofDays t.day).year first last
  rw [Date.toDays_eq] at count
  simp only [date, Date.marchYear, Date.monthIndex, Date.daysBeforeYear, Date.daysBeforeMonth,
    Date.eraDays, Date.epochOffset] at *
  split at count <;> omega

theorem exists_minusSeconds? (low : 0 ≤ t.date.year) (high : t.date.year ≤ 9999)
    (second : t.second < 86400) {seconds : Int} (small : seconds.natAbs < 86400) :
    ∃ u, t.minusSeconds? seconds = some u := by
  obtain ⟨first, last⟩ := day_bounds low high
  refine ⟨_, if_pos ?_⟩
  simp only [Date.InRange, Date.firstDay, Date.lastDay, secondsPerDay]
  omega

theorem minusSeconds?_isAfter {seconds : Int} (moved : t.minusSeconds? seconds = some u) :
    IsAfter (seconds * nanosecondsPerSecond) t u ∧ u.nanosecond = t.nanosecond := by
  obtain ⟨rfl, -⟩ := inRange?_eq_some moved
  refine ⟨isAfter_iff.2 ?_, rfl⟩
  simp only [elapsed, secondsPerDay, nanosecondsPerSecond]
  omega

theorem cut_eq (exact : t.nanosecond % Nat.pow 10 (9 - places) = 0) : t.cut places = t := by
  rw [cut, Nat.div_mul_cancel (Nat.dvd_of_mod_eq_zero exact)]

/-- A written time with an offset behind it begins with a sign or a digit, and ends with a
digit. -/
theorem firm_offset {last : List Char} (ends : ∃ front c, last = front ++ [c] ∧ c.isDigit) :
    Firm (String.ofList (t.written separator places ++ last)) where
  begins := by
    obtain ⟨c, later, begins, solid⟩ := written_begins t separator places
    rw [String.toList_ofList, begins]
    exact ⟨c, _, rfl, solid⟩
  ends := by
    obtain ⟨front, c, rfl, digit⟩ := ends
    exact ⟨t.written separator places ++ front, c, by simp, isSpace_of_isDigit digit⟩

/-- An offset with a colon is read by the strict layout. -/
theorem ofText?_offset (h : t.IsValid) (low : 0 ≤ t.date.year) (high : t.date.year ≤ 9999)
    (stands : separator = 'T' ∨ separator = ' ') (fits : places ≤ 9)
    (moved : (t.cut places).minusSeconds? offset.seconds = some u) :
    ofText? (String.ofList (t.written separator places ++ offset.text)) = some u := by
  have firm : Firm (String.ofList (t.written separator places ++ offset.text)) := by
    obtain ⟨front, c, ends, digit⟩ := padded_eq_concat 2 offset.minutes
    exact firm_offset ⟨offset.sign :: (padded 2 offset.hours ++ ':' :: front), c,
      by simp [Offset.text, ends], digit⟩
  have ends : EndsSecond offset.text := endsSecond_sign offset _
  have read : readItems? {} (strictDate ++ .separator :: strictTime ++ [.strictOffset])
      (t.written separator places ++ offset.text) =
        some { t.reading places with offset := offset.seconds } := by
    rw [strict_reads h low high stands fits ends]
    simp [readItems?, readItem?, readOffset?_text]
  rw [ofText?_firm firm]
  simp only [layouts, List.findSome?_cons, read, Option.bind_some,
    toDateTime?_reading h fits _ offset.natAbs_seconds_lt, moved]

theorem ofText?_shortOffset (h : t.IsValid) (low : 0 ≤ t.date.year) (high : t.date.year ≤ 9999)
    (fits : places ≤ 9) (whole : offset.minutes = 0)
    (moved : (t.cut places).minusSeconds? offset.seconds = some u) :
    ofText? (String.ofList (t.written ' ' places ++ offset.shortText)) = some u := by
  have firm : Firm (String.ofList (t.written ' ' places ++ offset.shortText)) := by
    obtain ⟨front, c, ends, digit⟩ := padded_eq_concat 2 offset.hours
    exact firm_offset ⟨offset.sign :: front, c, by simp [Offset.shortText, ends], digit⟩
  have ends : EndsSecond offset.shortText := endsSecond_sign offset _
  have strict : readItems? {} (strictDate ++ .separator :: strictTime ++ [.strictOffset])
      (t.written ' ' places ++ offset.shortText) = none := by
    rw [strict_reads h low high (.inr rfl) fits ends]
    simp [readItems?, readItem?, readOffset?_strict_shortText]
  have read : readItems? {} (looseDate ++ .spaces :: looseTime ++ [.offset])
      (t.written ' ' places ++ offset.shortText) =
        some { t.reading places with offset := offset.seconds } := by
    rw [spaced_reads h fits ends]
    simp [readItems?, readItem?, readOffset?_shortText whole]
  rw [ofText?_firm firm]
  simp only [layouts, List.findSome?_cons, strict, read, Option.bind_none, Option.bind_some,
    toDateTime?_reading h fits _ offset.natAbs_seconds_lt, moved]

theorem ofText?_local (h : t.IsValid) (stands : separator = 'T' ∨ separator = ' ')
    (fits : places ≤ 9) :
    ofText? (String.ofList (t.written separator places)) = some (t.cut places) := by
  have read (items : List Item) := spaced_reads h fits endsSecond_nil items
  rw [List.append_nil] at read
  have noOffset : readItems? {} (looseDate ++ .spaces :: looseTime ++ [.offset])
      (t.written ' ' places) = none := by
    rw [read]
    rfl
  have plain : readItems? {} (looseDate ++ .spaces :: looseTime) (t.written ' ' places) =
      some (t.reading places) := read []
  rw [ofText?_firm (firm_written t separator places)]
  rcases stands with rfl | rfl
  · simp only [layouts, List.findSome?_cons, strict_fails h (.inl rfl) fits, spaced_fails,
      lettered_reads h fits, Option.bind_none, Option.bind_some, toDateTime?_local h fits]
  · simp only [layouts, List.findSome?_cons, strict_fails h (.inr rfl) fits, noOffset,
      lettered_fails, plain, Option.bind_none, Option.bind_some, toDateTime?_local h fits]

end DateTime

/-- A time of a year from 0 to 9999 is written with a letter or a blank before its hours,
and with places enough for its fraction. With an offset behind it the text denotes the time
of the calendar from which the offset leads to the time that is written, and a leap second
stays one. Behind a blank an offset may go without its minutes. Without an offset the text
denotes the time itself. -/
theorem offsets_denote_instants {t : DateTime} {places : Nat} (valid : t.IsValid)
    (year : 0 ≤ t.date.year ∧ t.date.year ≤ 9999) (fits : places ≤ 9)
    (exact : t.nanosecond % Nat.pow 10 (9 - places) = 0) :
    (∀ (separator : Char) (offset : Offset), separator = 'T' ∨ separator = ' ' →
      ∃ u, DateTime.ofText? (String.ofList (t.written separator places ++ offset.text)) = some u ∧
        u.IsValid ∧ DateTime.IsAfter (offset.seconds * 1000000000) t u ∧
        u.nanosecond = t.nanosecond) ∧
    (∀ offset : Offset, offset.minutes = 0 →
      ∃ u, DateTime.ofText? (String.ofList (t.written ' ' places ++ offset.shortText)) = some u ∧
        u.IsValid ∧ DateTime.IsAfter (offset.seconds * 1000000000) t u ∧
        u.nanosecond = t.nanosecond) ∧
    ∀ separator : Char, separator = 'T' ∨ separator = ' ' →
      DateTime.ofText? (String.ofList (t.written separator places)) = some t := by
  have whole := DateTime.cut_eq exact
  have earlier (offset : Offset) : ∃ u, (t.cut places).minusSeconds? offset.seconds = some u ∧
      DateTime.IsAfter (offset.seconds * 1000000000) t u ∧ u.nanosecond = t.nanosecond := by
    obtain ⟨u, moved⟩ := DateTime.exists_minusSeconds? year.1 year.2 valid.2.1
      offset.natAbs_seconds_lt
    exact ⟨u, by rw [whole, moved], DateTime.minusSeconds?_isAfter moved⟩
  refine ⟨fun separator offset stands => ?_, fun offset hours => ?_, fun separator stands => ?_⟩
  · obtain ⟨u, moved, after, same⟩ := earlier offset
    have read := DateTime.ofText?_offset valid year.1 year.2 stands fits moved
    exact ⟨u, read, DateTime.ofText?_isValid read, after, same⟩
  · obtain ⟨u, moved, after, same⟩ := earlier offset
    have read := DateTime.ofText?_shortOffset valid year.1 year.2 fits hours moved
    exact ⟨u, read, DateTime.ofText?_isValid read, after, same⟩
  · rw [DateTime.ofText?_local valid stands fits, whole]

/-- A leap second at the end of a leap day, half an hour behind universal time, where it is
March already. -/
theorem leapDay_is_behind :
    let t : DateTime := ⟨11016, 86399, 1250000000⟩
    t.IsValid ∧ t.date = ⟨2000, 2, 29⟩ ∧ t.nanosecond % Nat.pow 10 (9 - 2) = 0 ∧
    ∃ u, DateTime.ofText? "2000-02-29T23:59:60.25-00:30" = some u ∧
      u.IsValid ∧ DateTime.IsAfter (-1800 * 1000000000) t u ∧ u.nanosecond = 1250000000 := by
  intro t
  have valid : t.IsValid := ⟨by decide, by decide, .inr ⟨by decide, by decide⟩⟩
  have text : t.written 'T' 2 ++ Offset.text ⟨true, 0, 30, by decide, by decide⟩ =
      "2000-02-29T23:59:60.25-00:30".toList := by
    decide +kernel
  obtain ⟨u, read, found⟩ := (offsets_denote_instants valid (by decide) (by decide : 2 ≤ 9)
    (by decide)).1 'T' ⟨true, 0, 30, by decide, by decide⟩ (.inl rfl)
  rw [text, String.ofList_toList] at read
  exact ⟨valid, by decide, by decide, u, read, found⟩

end ChartQuery
