import ChartQuery.Data.Value

/-!
# Times that cells hold

Whatever a cell holds, the time that is read from it is one of the calendar. A text may
say a fraction of a second, which is less than a second, and an offset, which is in whole
minutes; so a leap second stays the last second of a minute in universal time.

Main statement: `Cell.dateTime?_isValid`.
-/

namespace ChartQuery

namespace Text

theorem number_lt {digits : List Char} (all : ∀ c ∈ digits, c.isDigit) :
    number digits < Nat.pow 10 digits.length := by
  unfold number
  induction digits with
  | nil => simp
  | cons c digits ih =>
    obtain ⟨first, rest⟩ := List.forall_mem_cons.1 all
    have digit : c.toNat - '0'.toNat ≤ 9 := by
      simp [Char.isDigit, UInt32.le_iff_toNat_le] at first
      have : c.toNat = c.val.toNat := rfl
      have : '0'.toNat = 48 := rfl
      omega
    have later := ih rest
    have scaled := Nat.mul_le_mul_left (Nat.pow 10 digits.length) digit
    rw [Nat.ofDigitChars_cons, Nat.ofDigitChars_eq_ofDigitChars_zero, Nat.mul_zero, Nat.zero_add]
    change Nat.pow 10 digits.length * _ + _ < Nat.pow 10 digits.length * 10
    omega

end Text

namespace Reading

/-- What holds of every reading: a fraction is less than a second, and an offset is in
whole minutes. -/
structure IsSound (reading : Reading) : Prop where
  nanosecond : reading.nanosecond < 1000000000
  offset : reading.offset % 60 = 0

theorem fractionValue_lt {digits : List Char} (all : ∀ c ∈ digits, c.isDigit) :
    fractionValue digits < 1000000000 := by
  have small := Text.number_lt fun c mem => all c (List.mem_of_mem_take mem (i := 9))
  have length : (digits.take 9).length ≤ 9 := List.length_take_le 9 digits
  unfold fractionValue
  generalize digits.take 9 = shown at *
  have whole : Nat.pow 10 shown.length * Nat.pow 10 (9 - shown.length) = 1000000000 := by
    change 10 ^ shown.length * 10 ^ (9 - shown.length) = 10 ^ 9
    rw [← Nat.pow_add, Nat.add_sub_cancel' length]
  rw [← whole]
  exact Nat.mul_lt_mul_of_pos_right small (Nat.pow_pos (by decide))

theorem readOffset?_minutes {strict : Bool} {s rest : List Char} {seconds : Int}
    (read : readOffset? strict s = some (seconds, rest)) : seconds % 60 = 0 := by
  simp only [readOffset?] at read
  split at read
  · cases read
    rfl
  · cases read
    rfl
  obtain ⟨⟨negative, _⟩, -, read⟩ := Option.bind_eq_some_iff.1 read
  obtain ⟨⟨hours, after⟩, -, read⟩ := Option.bind_eq_some_iff.1 read
  have told : ∃ minutes : Nat, seconds =
      if negative then -((hours : Int) * 3600 + minutes * 60) else hours * 3600 + minutes * 60 := by
    dsimp only at read
    split at read
    · split at read
      · obtain ⟨_, -, read⟩ := Option.bind_eq_some_iff.1 read
        obtain ⟨⟨minutes, _⟩, -, same⟩ := Option.bind_eq_some_iff.1 read
        cases same
        exact ⟨minutes, rfl⟩
      · cases read
    · obtain ⟨_, -, read⟩ := Option.bind_eq_some_iff.1 read
      obtain ⟨⟨minutes, _⟩, -, same⟩ := Option.bind_eq_some_iff.1 read
      cases same
      exact ⟨minutes, rfl⟩
  obtain ⟨minutes, rfl⟩ := told
  split <;> omega

theorem IsSound.set {reading : Reading} (h : reading.IsSound) (field : Field) (n : Int) :
    (reading.set field n).IsSound := by
  cases field <;> exact ⟨h.nanosecond, h.offset⟩

theorem IsSound.readItem {reading next : Reading} {item : Item} {s rest : List Char}
    (h : reading.IsSound) (read : reading.readItem? item s = some (next, rest)) : next.IsSound := by
  cases item with
  | number field | digits field =>
    obtain ⟨_, -, same⟩ := Option.map_eq_some_iff.1 read
    cases same
    exact h.set field _
  | spaces =>
    cases read
    exact h
  | literal c | separator =>
    simp only [readItem?] at read
    split at read
    · split at read
      · cases read
        exact h
      · cases read
    · cases read
  | fraction =>
    simp only [readItem?] at read
    split at read
    · split at read
      · cases read
      · cases read
        exact ⟨fractionValue_lt (List.all_eq_true.1 List.all_takeWhile), h.offset⟩
    · cases read
      exact h
  | strictOffset | offset =>
    obtain ⟨_, told, same⟩ := Option.map_eq_some_iff.1 read
    cases same
    exact ⟨h.nanosecond, readOffset?_minutes told⟩

theorem IsSound.readItems {reading result : Reading} {items : List Item} {s : List Char}
    (h : reading.IsSound) (read : reading.readItems? items s = some result) : result.IsSound := by
  induction items generalizing reading s with
  | nil =>
    unfold readItems? at read
    split at read
    · cases read
      exact h
    · cases read
  | cons item items ih =>
    unfold readItems? at read
    split at read
    · rename_i next rest step
      exact ih (h.readItem step) read
    · cases read

end Reading

namespace DateTime

theorem inRange?_eq_some {t t' : DateTime} (read : t.inRange? = some t') :
    t' = t ∧ Date.InRange t.day := by
  unfold inRange? at read
  split at read
  · rename_i range
    cases read
    exact ⟨rfl, range⟩
  · cases read

theorem ofNanoseconds_isValid {n : Int} (range : Date.InRange (ofNanoseconds n).day) :
    (ofNanoseconds n).IsValid := by
  simp only [ofNanoseconds, nanosecondsPerSecond, secondsPerDay] at range ⊢
  refine ⟨range, ?_, .inl ?_⟩ <;> dsimp only <;> omega

theorem ofCount?_isValid {unit : TimeUnit} {count : Int} {t : DateTime}
    (read : ofCount? unit count = some t) : t.IsValid := by
  obtain ⟨rfl, range⟩ := inRange?_eq_some read
  exact ofNanoseconds_isValid range

theorem ofDay?_isValid {day : Int} {t : DateTime} (read : ofDay? day = some t) : t.IsValid := by
  obtain ⟨rfl, range⟩ := inRange?_eq_some read
  exact ⟨range, by simp, .inl (by simp)⟩

theorem ofTimeOfDay?_isValid {n : Int} {t : DateTime} (read : ofTimeOfDay? n = some t) :
    t.IsValid := by
  unfold ofTimeOfDay? at read
  split at read
  · rename_i inDay
    cases read
    obtain ⟨low, high⟩ := Bool.and_eq_true_iff.1 inDay
    replace low := of_decide_eq_true low
    replace high := of_decide_eq_true high
    simp only [secondsPerDay, nanosecondsPerSecond] at high
    apply ofNanoseconds_isValid
    simp only [ofNanoseconds, nanosecondsPerSecond, secondsPerDay, Date.InRange, Date.firstDay,
      Date.lastDay]
    omega
  · cases read

/-- The time of a reading is one of the calendar. An offset does not move a leap second
away from the end of its minute. -/
theorem isValid_of_reading {reading : Reading} {t : DateTime} (h : reading.IsSound)
    (read : reading.toDateTime? = some t) : t.IsValid := by
  have fraction := h.nanosecond
  have offset := h.offset
  unfold Reading.toDateTime? at read
  split at read
  · dsimp only at read
    split at read
    · obtain ⟨rfl, range⟩ := inRange?_eq_some read
      refine ⟨range, ?_, .inr ⟨?_, ?_⟩⟩
      · dsimp only [secondsPerDay]
        omega
      · dsimp only
        omega
      · dsimp only [secondsPerDay]
        omega
    · obtain ⟨rfl, range⟩ := inRange?_eq_some read
      refine ⟨range, ?_, .inl ?_⟩
      · dsimp only [secondsPerDay]
        omega
      · dsimp only
        omega
  · cases read

theorem ofText?_isValid {text : String} {t : DateTime} (read : ofText? text = some t) :
    t.IsValid := by
  obtain ⟨layout, -, read⟩ := List.exists_of_findSome?_eq_some read
  obtain ⟨reading, items, told⟩ := Option.bind_eq_some_iff.1 read
  have start : Reading.IsSound {} := ⟨by decide, by decide⟩
  exact isValid_of_reading (start.readItems items) told

end DateTime

theorem Cell.dateTime?_isValid {cell : Cell} {t : DateTime} (read : cell.dateTime? = some t) :
    t.IsValid := by
  cases cell with
  | date days => exact DateTime.ofDay?_isValid read
  | dateTime unit count => exact DateTime.ofCount?_isValid read
  | timeOfDay n => exact DateTime.ofTimeOfDay?_isValid read
  | text s =>
    rw [dateTime?] at read
    exact DateTime.ofText?_isValid read
  | _ =>
    rw [dateTime?] at read
    · obtain ⟨count, -, read⟩ := Option.bind_eq_some_iff.1 read
      unfold ofMilliseconds? at read
      split at read
      · exact DateTime.ofCount?_isValid read
      · cases read
    all_goals exact nofun

end ChartQuery
