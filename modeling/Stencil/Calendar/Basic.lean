set_option autoImplicit false

/-! # Dates and moments

Days of the proleptic Gregorian calendar in the years 1 to 9999, and moments within them. A moment
may know how far its clock is ahead of universal time.

* `Date.dayNumber` counts days from the first of January of the year 1, which is day 1, and
  `Date.ofDayNumber?` is its inverse on the days that the calendar holds.
-/

namespace Stencil

-- The empty sum is the numeral, whatever other structure the numbers are given.
attribute [local instance (2000)] Zero.ofOfNat0

/-! ## Years and months -/

/-- Whether a year has a 29th of February. -/
def isLeapYear (year : Nat) : Bool :=
  year % 4 == 0 && (year % 100 != 0 || year % 400 == 0)

/-- The number of days of a month. -/
def daysInMonth (year : Nat) : Nat → Nat
  | 2 => if isLeapYear year then 29 else 28
  | 4 => 30
  | 6 => 30
  | 9 => 30
  | 11 => 30
  | _ => 31

/-- No month has more than 31 days. -/
theorem daysInMonth_le (year month : Nat) : daysInMonth year month ≤ 31 := by
  unfold daysInMonth
  split
  · split <;> decide
  all_goals decide

/-- The number of days before the first of January of a year. -/
def daysBeforeYear (year : Nat) : Nat :=
  let y := year - 1
  365 * y + y / 4 - y / 100 + y / 400

/-- The number of days of a year before a month. -/
def daysBeforeMonth (year month : Nat) : Nat :=
  ((List.range month).map fun m => if m = 0 then 0 else daysInMonth year m).sum

/-- The names of the months. -/
def monthNames : List String :=
  ["January", "February", "March", "April", "May", "June", "July", "August", "September",
    "October", "November", "December"]

/-- The names of the weekdays, from Monday. -/
def weekdayNames : List String :=
  ["Monday", "Tuesday", "Wednesday", "Thursday", "Friday", "Saturday", "Sunday"]

/-- The digits of `n`, filled up with zeros in front to `size` characters. -/
def padded (size n : Nat) : String :=
  let digits := toString n
  String.ofList (List.replicate (size - digits.length) '0') ++ digits

/-! ## Dates -/

/-- A day. -/
structure Date where
  year : Nat
  month : Nat
  day : Nat
  deriving DecidableEq, Repr, Inhabited

namespace Date

/-- Whether the calendar has such a day. -/
def isValid (d : Date) : Bool :=
  1 ≤ d.year && d.year ≤ 9999 && 1 ≤ d.month && d.month ≤ 12 && 1 ≤ d.day &&
    d.day ≤ daysInMonth d.year d.month

/-- The day with these numbers, if the calendar has it. -/
def ofNumbers? (year month day : Nat) : Option Date :=
  let d : Date := ⟨year, month, day⟩
  if d.isValid then some d else none

/-- The number of days from the start of the calendar, this day included. -/
def dayNumber (d : Date) : Nat :=
  daysBeforeYear d.year + daysBeforeMonth d.year d.month + d.day

/-- The month and day of the `day`-th day of a year, looked for from `month` on. -/
def monthDay (year month day : Nat) : Nat → Nat × Nat
  | 0 => (month, day)
  | months + 1 =>
    if day ≤ daysInMonth year month then (month, day)
    else monthDay year (month + 1) (day - daysInMonth year month) months

/-- The day with this number, if the calendar has it. The calendar repeats every 400 years; within
    them the last day of a leap century or of a leap year is kept in its own year. -/
def ofDayNumber? (n : Int) : Option Date :=
  if n < 1 then none
  else
    let k := n.toNat - 1
    let inCycle := k % 146097
    let century := min (inCycle / 36524) 3
    let inCentury := inCycle - century * 36524
    let inFour := inCentury % 1461
    let single := min (inFour / 365) 3
    let year := k / 146097 * 400 + century * 100 + inCentury / 1461 * 4 + single + 1
    let (month, day) := monthDay year 1 (inFour - single * 365 + 1) 11
    ofNumbers? year month day

/-- The day of the week, counted from Monday as zero. -/
def weekday (d : Date) : Nat :=
  (d.dayNumber + 6) % 7

/-- The day as year, month and day, joined by hyphens. -/
def iso (d : Date) : String :=
  padded 4 d.year ++ "-" ++ padded 2 d.month ++ "-" ++ padded 2 d.day

/-- The name of the month. -/
def monthName (d : Date) : String :=
  monthNames.getD (d.month - 1) ""

/-- The name of the weekday. -/
def weekdayName (d : Date) : String :=
  weekdayNames.getD d.weekday ""

theorem isValid_iff {d : Date} : d.isValid = true ↔
    (1 ≤ d.year ∧ d.year ≤ 9999) ∧ (1 ≤ d.month ∧ d.month ≤ 12) ∧
      1 ≤ d.day ∧ d.day ≤ daysInMonth d.year d.month := by
  simp only [isValid, Bool.and_eq_true, decide_eq_true_eq, and_assoc]

theorem day_le_of_isValid {d : Date} (h : d.isValid = true) : d.day ≤ 31 :=
  Nat.le_trans (isValid_iff.1 h).2.2.2 (daysInMonth_le _ _)

/-- A built date is valid. -/
theorem isValid_of_ofNumbers? {year month day : Nat} {d : Date}
    (h : ofNumbers? year month day = some d) : d.isValid = true := by
  simp only [ofNumbers?] at h
  split at h
  · cases h; assumption
  · cases h

example : (Date.mk 2024 1 5).weekdayName = "Friday" ∧ (Date.mk 2024 12 31).dayNumber = 739251 := by
  decide +kernel

example : ofDayNumber? 739251 = some ⟨2024, 12, 31⟩ ∧ ofDayNumber? 1 = some ⟨1, 1, 1⟩ ∧
    ofDayNumber? 3652059 = some ⟨9999, 12, 31⟩ ∧ ofDayNumber? 3652060 = none := by decide +kernel

end Date

/-! ## Offsets from universal time -/

/-- How far a clock is ahead of universal time, in microseconds. -/
structure Offset where
  micros : Int
  deriving DecidableEq, Repr, Inhabited

namespace Offset

/-- Universal time itself. -/
def utc : Offset := ⟨0⟩

/-- Whether the offset is less than a day. -/
def isValid (o : Offset) : Bool :=
  o.micros.natAbs < 86400000000

/-- The offset with its sign, as hours and minutes, and seconds and microseconds where there are
    any. -/
def iso (o : Offset) : String :=
  let size := o.micros.natAbs
  let micros := size % 1000000
  let seconds := size / 1000000
  (if o.micros < 0 then "-" else "+") ++ padded 2 (seconds / 3600) ++ ":" ++
    padded 2 (seconds / 60 % 60) ++
    (if seconds % 60 = 0 && micros = 0 then "" else ":" ++ padded 2 (seconds % 60)) ++
    (if micros = 0 then "" else "." ++ padded 6 micros)

/-- The name of the zone with this offset. -/
def name (o : Offset) : String :=
  if o.micros = 0 then "UTC" else "UTC" ++ o.iso

end Offset

/-! ## Moments -/

/-- A time of day on a day, and the offset of its clock if that is known. -/
structure Moment where
  date : Date
  hour : Nat
  minute : Nat
  second : Nat
  microsecond : Nat
  offset : Option Offset
  deriving DecidableEq, Repr, Inhabited

namespace Moment

/-- The start of a day, on a clock with unknown offset. -/
def midnight (d : Date) : Moment :=
  ⟨d, 0, 0, 0, 0, none⟩

/-- Whether day, time of day and offset are in range. -/
def isValid (m : Moment) : Bool :=
  m.date.isValid && m.hour < 24 && m.minute < 60 && m.second < 60 && m.microsecond < 1000000 &&
    m.offset.all (·.isValid)

/-- The microseconds from the start of the calendar on the moment's own clock. -/
def clockMicros (m : Moment) : Int :=
  (((m.date.dayNumber * 24 + m.hour) * 60 + m.minute) * 60 + m.second) * 1000000 + m.microsecond

/-- Whether two moments are the same: the same instant when both offsets are known, the same clock
    reading when neither is. -/
def same (a b : Moment) : Bool :=
  match a.offset, b.offset with
  | some p, some q => a.clockMicros - p.micros == b.clockMicros - q.micros
  | none, none => a.clockMicros == b.clockMicros
  | _, _ => false

/-- The time of day with its offset; microseconds only where there are any. -/
def isoTime (m : Moment) : String :=
  padded 2 m.hour ++ ":" ++ padded 2 m.minute ++ ":" ++ padded 2 m.second ++
    (if m.microsecond = 0 then "" else "." ++ padded 6 m.microsecond) ++
    (match m.offset with
      | some o => o.iso
      | none => "")

/-- The moment with the given separator between day and time. -/
def iso (m : Moment) (separator : String) : String :=
  m.date.iso ++ separator ++ m.isoTime

example : (Moment.mk ⟨2024, 1, 5⟩ 10 20 30 123 (some ⟨-18000000000⟩)).iso "T" =
    "2024-01-05T10:20:30.000123-05:00" := by decide +kernel

end Moment

end Stencil
