import ChartQuery.Calendar.Reader
import ChartQuery.Proofs.Calendar.Days
import ChartQuery.Proofs.Text.Digits

/-!
# Layouts of written dates

The items of a layout read a date with its time piece by piece, each with what really
follows it. The strict reader and the loose one read the same pieces, and differ in years
and in what stands between date and time. What a written date says is the date with its
time again, cut off after the last digit that is written (`toDateTime?_reading`).
-/

namespace ChartQuery

open Text

namespace Reading

variable {reading next : Reading} {item : Item} {items : List Item} {s rest : List Char} {n : Nat}

theorem readItems?_cons (read : reading.readItem? item s = some (next, rest)) :
    reading.readItems? (item :: items) s = next.readItems? items rest := by
  rw [readItems?, read]

theorem readItems?_none (failed : reading.readItem? item s = none) :
    reading.readItems? (item :: items) s = none := by
  rw [readItems?, failed]

theorem readNumber?_padded {width most : Nat} (pos : 0 < width) (small : n < Nat.pow 10 width)
    (fits : width ≤ most) (stops : Stops rest) :
    readNumber? most (padded width n ++ rest) = some (n, rest) := by
  obtain ⟨c, later, written, -⟩ := padded_eq_cons width n
  rw [readNumber?, takeDigits_padded pos small fits stops]
  simp only [number_padded]
  rw [written]
  rfl

theorem readExactly?_padded {width : Nat} (pos : 0 < width) (small : n < Nat.pow 10 width)
    (stops : Stops rest) : readExactly? width (padded width n ++ rest) = some (n, rest) := by
  rw [readExactly?, takeDigits_padded pos small (Nat.le_refl _) stops]
  simp only [number_padded, length_padded pos small, if_true]

theorem readLong?_padded {width : Nat} (stops : Stops rest) :
    readLong? (padded width n ++ rest) = some (n, rest) := by
  obtain ⟨c, later, written, -⟩ := padded_eq_cons width n
  rw [readLong?, takeAllDigits_eq (fun _ => isDigit_of_mem_padded) stops]
  simp only [number_padded]
  rw [written]
  rfl

theorem readYear?_yearText {year : Int} (stops : Stops rest) :
    readYear? (DateTime.yearText year ++ rest) = some (year, rest) := by
  unfold DateTime.yearText
  split
  · rename_i plain
    have small : year.toNat < 10000 := by omega
    obtain ⟨c, later, written, digit⟩ := padded_eq_cons 4 year.toNat
    have read := readNumber?_padded (by decide) small (Nat.le_refl 4) stops
    rw [written, List.cons_append] at read ⊢
    unfold readYear?
    split
    · rename_i same
      cases same
      cases digit
    · rename_i same
      cases same
      cases digit
    · rw [read]
      simp [Int.toNat_of_nonneg plain.1]
  · split
    · rename_i negative
      rw [List.cons_append, readYear?, readLong?_padded stops]
      simp only [Option.map_some, Option.some.injEq, Prod.mk.injEq, and_true]
      omega
    · rename_i positive
      rw [List.cons_append, readYear?, readLong?_padded stops]
      simp only [Option.map_some, Option.some.injEq, Prod.mk.injEq, and_true]
      omega

theorem head_yearText (year : Int) :
    ∃ c later, DateTime.yearText year = c :: later ∧ isSpace c = false := by
  unfold DateTime.yearText
  split
  · obtain ⟨c, later, written, digit⟩ := padded_eq_cons 4 year.toNat
    exact ⟨c, later, written, isSpace_of_isDigit digit⟩
  · refine ⟨_, _, rfl, ?_⟩
    split <;> rfl

section Items

variable {field : Field}

theorem readItem?_year {year : Int} (stops : Stops rest) :
    reading.readItem? (.number .year) (DateTime.yearText year ++ rest) =
      some (reading.set .year year, rest) := by
  obtain ⟨c, later, written, solid⟩ := head_yearText year
  have read : readYear? (DateTime.yearText year ++ rest) = some (year, rest) :=
    readYear?_yearText stops
  rw [written, List.cons_append] at read ⊢
  simp [readItem?, readField?, solid, read]

/-- A reader of two digits, be it the strict one or the other. -/
def ReadsTwo (item : Field → Item) : Prop :=
  ∀ (reading : Reading) (field : Field) (n : Nat) (rest : List Char), field ≠ .year → n < 100 →
    Stops rest →
      reading.readItem? (item field) (padded 2 n ++ rest) = some (reading.set field n, rest)

theorem readsTwo_number : ReadsTwo .number := by
  intro reading field n rest other small stops
  obtain ⟨c, later, written, digit⟩ := padded_eq_cons 2 n
  have read := readNumber?_padded (by decide) small (Nat.le_refl 2) stops
  rw [written, List.cons_append] at read ⊢
  simp [readItem?, readField?, isSpace_of_isDigit digit, other, read]

theorem readsTwo_digits : ReadsTwo .digits := by
  intro reading field n rest other small stops
  simp [readItem?, other, readExactly?_padded (by decide : 0 < 2) small stops]

/-- An item that reads a character between a date and a time. -/
def Separates (item : Item) (separator : Char) : Prop :=
  ∀ (reading : Reading) (c : Char) (rest : List Char), isSpace c = false →
    reading.readItem? item (separator :: c :: rest) = some (reading, c :: rest)

theorem separates_literal (c : Char) : Separates (.literal c) c := by
  intro reading d rest solid
  simp [readItem?]

theorem separates_spaces : Separates .spaces ' ' := by
  intro reading d rest solid
  have blank : isSpace ' ' := by decide
  simp [readItem?, solid, blank]

theorem separates_separator {c : Char} (h : c = 'T' ∨ c = ' ') : Separates .separator c := by
  intro reading d rest solid
  rcases h with rfl | rfl <;> simp [readItem?]

theorem readItem?_literal (c : Char) :
    reading.readItem? (.literal c) (c :: rest) = some (reading, rest) := by
  simp [readItem?]

theorem readItem?_fourDigits (small : n < 10000) (stops : Stops rest) :
    reading.readItem? (.digits .year) (padded 4 n ++ rest) = some (reading.set .year n, rest) := by
  simp [readItem?, readExactly?_padded (by decide : 0 < 4) small stops]

/-- A year of the strict layout has no sign. -/
theorem readItem?_notDigit {c : Char} (h : c.isDigit = false) :
    reading.readItem? (.digits .year) (c :: rest) = none := by
  simp [readItem?, readExactly?, takeDigits_stops 4 (stops_cons h)]

/-- What may follow the last second: nothing that goes on with it. -/
structure EndsSecond (rest : List Char) : Prop where
  stops : Stops rest
  noPoint : rest.head? ≠ some '.'

theorem endsSecond_nil : EndsSecond [] := ⟨stops_nil, by simp⟩

def fractionText (places n : Nat) : List Char :=
  if places = 0 then [] else '.' :: padded places n

theorem stops_fractionText (places n : Nat) (ends : EndsSecond rest) :
    Stops (fractionText places n ++ rest) := by
  unfold fractionText
  split
  · exact ends.stops
  · exact stops_cons (by decide)

theorem readItem?_fraction {places : Nat} (fits : places ≤ 9) (small : n < Nat.pow 10 places)
    (start : reading.nanosecond = 0) (ends : EndsSecond rest) :
    reading.readItem? .fraction (fractionText places n ++ rest) =
      some ({ reading with nanosecond := n * Nat.pow 10 (9 - places) }, rest) := by
  unfold fractionText
  split
  · rename_i none
    subst none
    obtain rfl : n = 0 := Nat.lt_one_iff.1 small
    have same : { reading with nanosecond := 0 * Nat.pow 10 9 } = reading := by
      rw [Nat.zero_mul, ← start]
    rw [List.nil_append, Nat.sub_zero, same]
    simp only [readItem?]
    split
    · exact absurd rfl ends.noPoint
    · rfl
  · rename_i some
    have pos : 0 < places := Nat.pos_of_ne_zero some
    have taken : takeAllDigits (padded places n ++ rest) = (padded places n, rest) :=
      takeAllDigits_eq (fun _ => isDigit_of_mem_padded) ends.stops
    have length : (padded places n).length = places := length_padded pos small
    have all : (padded places n).take 9 = padded places n :=
      List.take_of_length_le (by omega)
    have value : fractionValue (padded places n) = n * Nat.pow 10 (9 - places) := by
      simp only [fractionValue, all, number_padded, length]
    obtain ⟨c, later, written, -⟩ := padded_eq_cons places n
    simp only [List.cons_append, readItem?, taken, value]
    rw [written]
    rfl

/-- A year that a reader reads, whatever follows it. -/
def ReadsYear (item : Field → Item) (year : Int) : Prop :=
  ∀ (reading : Reading) (rest : List Char), Stops rest →
    reading.readItem? (item .year) (DateTime.yearText year ++ rest) =
      some (reading.set .year year, rest)

theorem readsYear_number (year : Int) : ReadsYear .number year := fun _ _ => readItem?_year

theorem readsYear_digits {year : Int} (low : 0 ≤ year) (high : year ≤ 9999) :
    ReadsYear .digits year := by
  intro reading rest stops
  have read := @readItem?_fourDigits reading rest year.toNat (by omega) stops
  rw [Int.toNat_of_nonneg low] at read
  rwa [DateTime.yearText, if_pos ⟨low, high⟩]

theorem readItems?_date {reader : Field → Item} (reads : ReadsTwo reader) {date : Date}
    (year : ReadsYear reader date.year) (civil : date.IsCivil) (stops : Stops rest) :
    reading.readItems? (reader .year :: .literal '-' :: reader .month :: .literal '-' ::
        reader .day :: items) (DateTime.dateText date ++ rest) =
      readItems? { reading with date } items rest := by
  have longest : Date.daysInMonth date.year date.month ≤ 31 := by
    unfold Date.daysInMonth
    repeat' split
    all_goals decide
  have month := civil.month
  have day := civil.day
  rw [DateTime.dateText]
  simp only [List.append_assoc, List.cons_append]
  rw [readItems?_cons (year _ _ (stops_cons (by decide))),
    readItems?_cons (readItem?_literal '-'),
    readItems?_cons (reads _ _ _ _ (by decide) (by omega) (stops_cons (by decide))),
    readItems?_cons (readItem?_literal '-'),
    readItems?_cons (reads _ _ _ _ (by decide) (by omega) stops)]
  rfl

/-- Hours, minutes, seconds and a fraction, for either reader of two digits. -/
theorem readItems?_clock {reader : Field → Item} (reads : ReadsTwo reader) {h m s k places : Nat}
    (hours : h < 100) (minutes : m < 100) (seconds : s < 100) (fits : places ≤ 9)
    (small : k < Nat.pow 10 places) (start : reading.nanosecond = 0) (ends : EndsSecond rest) :
    reading.readItems? (reader .hour :: .literal ':' :: reader .minute :: .literal ':' ::
        reader .second :: .fraction :: items)
        (padded 2 h ++ ':' :: (padded 2 m ++ ':' :: (padded 2 s ++
          (fractionText places k ++ rest)))) =
      readItems? { reading with
        hour := h, minute := m, second := s, nanosecond := k * Nat.pow 10 (9 - places) }
        items rest := by
  rw [readItems?_cons (reads _ _ _ _ (by decide) hours (stops_cons (by decide))),
    readItems?_cons (readItem?_literal ':'),
    readItems?_cons (reads _ _ _ _ (by decide) minutes (stops_cons (by decide))),
    readItems?_cons (readItem?_literal ':'),
    readItems?_cons (reads _ _ _ _ (by decide) seconds (stops_fractionText _ _ ends))]
  have unset : (((reading.set .hour h).set .minute m).set .second s).nanosecond = 0 := start
  rw [readItems?_cons (readItem?_fraction fits small unset ends)]
  rfl

end Items

end Reading

namespace DateTime

open Reading

def fraction (places : Nat) (t : DateTime) : Nat :=
  t.nanosecond % 1000000000 / Nat.pow 10 (9 - places)

/-- A date and a time with some places of the second's fraction. -/
def written (separator : Char) (places : Nat) (t : DateTime) : List Char :=
  dateText t.date ++ separator :: (t.timeText ++ fractionText places (t.fraction places))

theorem toList_text (places : Nat) (t : DateTime) :
    (t.text places).toList = t.written 'T' places := by
  simp [text, written, fractionText, fraction]

def reading (places : Nat) (t : DateTime) : Reading where
  date := t.date
  hour := t.second / 3600
  minute := t.second / 60 % 60
  second := t.second % 60 + t.nanosecond / 1000000000
  nanosecond := t.fraction places * Nat.pow 10 (9 - places)

/-- The time without what is behind some places of the second's fraction. -/
def cut (places : Nat) (t : DateTime) : DateTime :=
  { t with nanosecond := t.nanosecond / Nat.pow 10 (9 - places) * Nat.pow 10 (9 - places) }

variable {t : DateTime} {places : Nat} {separator : Char} {items : List Item} {rest : List Char}

theorem pow_mul_pow (fits : places ≤ 9) :
    Nat.pow 10 places * Nat.pow 10 (9 - places) = 1000000000 := by
  change 10 ^ places * 10 ^ (9 - places) = 10 ^ 9
  rw [← Nat.pow_add, Nat.add_sub_cancel' fits]

theorem fraction_lt (fits : places ≤ 9) (t : DateTime) : t.fraction places < Nat.pow 10 places := by
  refine Nat.div_lt_of_lt_mul ?_
  rw [Nat.mul_comm, pow_mul_pow fits]
  exact Nat.mod_lt _ (by decide)

/-- A layout with a date, an item between date and time, and a time reads a written time,
and goes on with what follows it. -/
theorem readItems?_written (items : List Item) {reader : Field → Item} {item : Item}
    (reads : ReadsTwo reader)
    (year : ReadsYear reader t.date.year) (separates : Separates item separator) (h : t.IsValid)
    (notDigit : separator.isDigit = false) (fits : places ≤ 9) (ends : EndsSecond rest) :
    readItems? {} (reader .year :: .literal '-' :: reader .month :: .literal '-' :: reader .day ::
        item :: reader .hour :: .literal ':' :: reader .minute :: .literal ':' ::
        reader .second :: .fraction :: items) (t.written separator places ++ rest) =
      readItems? (t.reading places) items rest := by
  obtain ⟨-, second, nanosecond⟩ := h
  obtain ⟨c, later, begins, digit⟩ := padded_eq_cons 2 (t.second / 3600)
  rw [written, timeText]
  simp only [List.append_assoc, List.cons_append]
  rw [readItems?_date reads year (Date.ofDays_isCivil _) (stops_cons notDigit)]
  have clock := @readItems?_clock { ({} : Reading) with date := t.date } items rest reader reads _ _
    _ _ places (by omega : t.second / 3600 < 100) (by omega : t.second / 60 % 60 < 100)
    (by omega : t.second % 60 + t.nanosecond / 1000000000 < 100) fits (fraction_lt fits t) rfl ends
  rw [begins, List.cons_append] at clock ⊢
  rw [readItems?_cons (separates _ _ _ (isSpace_of_isDigit digit)), clock]
  rfl

/-- A sixtieth second is taken for a leap second again. -/
theorem IsValid.leap (h : t.IsValid) (fits : places ≤ 9) :
    (t.reading places).hour * 3600 + (t.reading places).minute * 60 +
        (if (t.reading places).second == 60 then 59 else (t.reading places).second) = t.second ∧
      (t.reading places).nanosecond +
        (if (t.reading places).second == 60 then 1000000000 else 0) = (t.cut places).nanosecond := by
  obtain ⟨-, second, nanosecond⟩ := h
  have whole := pow_mul_pow fits
  simp only [reading, cut, fraction, beq_iff_eq]
  generalize Nat.pow 10 (9 - places) = unit at *
  by_cases common : t.nanosecond < 1000000000
  · have none : t.nanosecond / 1000000000 = 0 := Nat.div_eq_of_lt common
    have notSixty : ¬t.second % 60 + 0 = 60 := by omega
    rw [none, Nat.mod_eq_of_lt common, if_neg notSixty, if_neg notSixty]
    omega
  · obtain ⟨after, split⟩ : ∃ after, t.nanosecond = after + 1000000000 :=
      ⟨t.nanosecond - 1000000000, by omega⟩
    have one : t.nanosecond / 1000000000 = 1 := by omega
    have sixty : t.second % 60 + 1 = 60 := by omega
    have rest : t.nanosecond % 1000000000 = after := by omega
    rw [one, rest, if_pos sixty, if_pos sixty]
    refine ⟨by omega, ?_⟩
    have pos : 0 < unit := Nat.pos_of_ne_zero fun zero => by
      rw [zero] at whole
      cases whole
    rw [split, ← whole, Nat.add_mul_div_right _ _ pos, Nat.add_mul]

/-- What a written time says is this time, at an offset from universal time. -/
theorem toDateTime?_reading (h : t.IsValid) (fits : places ≤ 9) (offset : Int)
    (small : offset.natAbs < 86400) :
    { t.reading places with offset }.toDateTime? = (t.cut places).minusSeconds? offset := by
  have parts : (t.reading places).date.IsValid ∧ (t.reading places).hour < 24 ∧
      (t.reading places).minute < 60 ∧ (t.reading places).second ≤ 60 ∧ offset.natAbs < 86400 := by
    obtain ⟨range, second, nanosecond⟩ := h
    simp only [reading]
    exact ⟨Date.ofDays_isValid range, by omega, by omega, by omega, small⟩
  have day : (t.reading places).date.toDays = t.day := Date.toDays_ofDays t.day
  obtain ⟨second, nanosecond⟩ := h.leap fits
  rw [Reading.toDateTime?, if_pos parts]
  dsimp only
  rw [day, second, nanosecond]
  rfl

section Layouts

/-- The strict layout reads a year of four digits, either separator, and then an offset. -/
theorem strict_reads (h : t.IsValid) (low : 0 ≤ t.date.year) (high : t.date.year ≤ 9999)
    (stands : separator = 'T' ∨ separator = ' ') (fits : places ≤ 9) (ends : EndsSecond rest) :
    readItems? {} (strictDate ++ .separator :: strictTime ++ [.strictOffset])
      (t.written separator places ++ rest) =
        readItems? (t.reading places) [.strictOffset] rest := by
  have notDigit : separator.isDigit = false := by rcases stands with rfl | rfl <;> decide
  exact readItems?_written _ readsTwo_digits (readsYear_digits low high)
    (separates_separator stands) h
    notDigit fits ends

/-- With white space before the time, the loose layout goes on with what follows the time. -/
theorem spaced_reads (h : t.IsValid) (fits : places ≤ 9) (ends : EndsSecond rest)
    (items : List Item) :
    readItems? {} (looseDate ++ .spaces :: looseTime ++ items) (t.written ' ' places ++ rest) =
      readItems? (t.reading places) items rest :=
  readItems?_written items readsTwo_number (readsYear_number _) separates_spaces h (by decide)
    fits ends

theorem looseDate_reads (notDigit : separator.isDigit = false) :
    readItems? {} (looseDate ++ items) (t.written separator places) =
      readItems? { date := t.date } items
        (separator :: (t.timeText ++ fractionText places (t.fraction places))) := by
  rw [written]
  exact readItems?_date readsTwo_number (readsYear_number _) (Date.ofDays_isCivil _)
    (stops_cons notDigit)

theorem spaced_fails (t : DateTime) (places : Nat) (items : List Item) :
    readItems? {} (looseDate ++ .spaces :: looseTime ++ items) (t.written 'T' places) = none := by
  rw [List.append_assoc, looseDate_reads (by decide)]
  rfl

theorem lettered_reads (h : t.IsValid) (fits : places ≤ 9) :
    readItems? {} (looseDate ++ .literal 'T' :: looseTime) (t.written 'T' places) =
      some (t.reading places) := by
  have read := readItems?_written [] readsTwo_number (readsYear_number _)
    (separates_literal 'T') h (by decide) fits endsSecond_nil
  rw [List.append_nil] at read
  exact read

theorem lettered_fails (t : DateTime) (places : Nat) :
    readItems? {} (looseDate ++ .literal 'T' :: looseTime) (t.written ' ' places) = none := by
  rw [looseDate_reads (by decide)]
  rfl

end Layouts

end DateTime

end ChartQuery
