import Stencil.Calendar.Basic

set_option autoImplicit false

/-! # Reading ISO 8601 moments

A moment is a day, then, after one separating character, a time of day, then an offset. The day is
written with or without hyphens, as year, month and day or as year, week and weekday; the time as
hours, minutes, seconds and a fraction, with or without colons; the offset like a time, after its
sign. The extent of the day has to be found before it is read, because the separating character may
be anything.

The text is read as bytes, and a byte beyond its end is zero, which is no digit and no sign. -/

namespace Stencil.Iso

-- A power is the one of the numbers themselves, whatever other structure they are given.
attribute [local instance (2000)] instPowNat

/-- The byte at a position; zero beyond the end. -/
def byteAt (b : Array UInt8) (i : Nat) : UInt8 :=
  b.getD i 0

/-- The value of an ASCII digit. -/
def digit? (c : UInt8) : Option Nat :=
  if 48 ≤ c && c ≤ 57 then some (c.toNat - 48) else none

/-- The number written by the `count` digits from position `i` on, read after the value `acc`. -/
def digitsAt? (b : Array UInt8) (i : Nat) (acc : Nat) : Nat → Option Nat
  | 0 => some acc
  | count + 1 => do
    let d ← digit? (byteAt b i)
    digitsAt? b (i + 1) (10 * acc + d) count

/-- The number of digits from position `i` on, up to `stop`. -/
def digitRun (b : Array UInt8) (i : Nat) : Nat → Nat
  | 0 => 0
  | more + 1 => if (digit? (byteAt b i)).isSome then digitRun b (i + 1) more + 1 else 0

/-! ## Days -/

/-- The position at which the day ends in a text of at least seven bytes. Where a week date could go
    on with a weekday or with the time, the digits that follow decide. -/
def dayEnd (b : Array UInt8) : Nat :=
  let hyphen : UInt8 := 45
  let week : UInt8 := 87
  if b.size = 7 then 7
  else if byteAt b 4 = hyphen then
    if byteAt b 5 = week then
      if 8 < b.size && byteAt b 8 = hyphen then
        if 10 < b.size && (digit? (byteAt b 10)).isSome then 8 else 10
      else 8
    else 10
  else if byteAt b 4 = week then
    let stop := 7 + digitRun b 7 (b.size - 7)
    if stop < 9 then stop else if stop % 2 = 0 then 7 else 8
  else 8

/-- The number of weeks of a year that is counted in weeks. -/
def weeksInYear (year : Nat) : Nat :=
  let first := (Date.mk year 1 1).weekday
  if first = 3 || (first = 2 && isLeapYear year) then 53 else 52

/-- The day with this week and weekday. The first week is the one with the year's first Thursday. -/
def ofWeek? (year week weekday : Nat) : Option Date :=
  if year = 0 || week = 0 || weeksInYear year < week || weekday = 0 || 7 < weekday then none
  else
    let first : Date := ⟨year, 1, 1⟩
    let monday : Int :=
      (first.dayNumber : Int) - first.weekday + (if 3 < first.weekday then 7 else 0)
    Date.ofDayNumber? (monday + 7 * (week - 1) + (weekday - 1))

/-- Reads the day that takes the bytes up to `stop`. -/
def day? (b : Array UInt8) (stop : Nat) : Option Date := do
  let year ← digitsAt? b 0 0 4
  let separated := byteAt b 4 = 45
  let i := if separated then 5 else 4
  if byteAt b i = 87 then
    let week ← digitsAt? b (i + 1) 0 2
    if i + 3 < stop then
      if separated && byteAt b (i + 3) ≠ 45 then none
      else
        let weekday ← digitsAt? b (if separated then i + 4 else i + 3) 0 1
        ofWeek? year week weekday
    else ofWeek? year week 1
  else
    let month ← digitsAt? b i 0 2
    if separated && byteAt b (i + 2) ≠ 45 then none
    else
      let j := if separated then i + 3 else i + 2
      let day ← digitsAt? b j 0 2
      if j + 2 = stop then Date.ofNumbers? year month day else none

/-! ## Times -/

/-- A time of day as read, and whether the text goes on after it. -/
structure Clock where
  hour : Nat
  minute : Nat
  second : Nat
  microsecond : Nat
  more : Bool

/-- A clock reading from the fields read so far. -/
def clockOf (fields : List Nat) (microsecond : Nat) (more : Bool) : Clock :=
  ⟨fields.getD 0 0, fields.getD 1 0, fields.getD 2 0, microsecond, more⟩

/-- Reads a fraction that starts at `i`: up to six digits count, further ones are passed over. -/
def fraction? (b : Array UInt8) (i stop : Nat) (fields : List Nat) : Option Clock := do
  let size := min (stop - i) 6
  let n ← digitsAt? b i 0 size
  let next := i + size + digitRun b (i + size) (b.size - (i + size))
  return clockOf fields (n * 10 ^ (6 - size)) (byteAt b next ≠ 0)

/-- Reads up to `count` further fields of two digits from `i` on, and then a fraction. Fields are
    joined by colons or by nothing, as after the first one; a point or a comma starts the
    fraction. -/
def fields? (b : Array UInt8) (stop : Nat) (i : Nat) (colons : Option Bool) (fields : List Nat) :
    Nat → Option Clock
  | 0 => fraction? b i stop fields
  | count + 1 => do
    let n ← digitsAt? b i 0 2
    let fields := fields ++ [n]
    let c := byteAt b (i + 2)
    let separated := colons.getD (c = 58)
    if stop ≤ i + 3 then return clockOf fields 0 (c ≠ 0)
    else if separated && c = 58 then fields? b stop (i + 3) (some separated) fields count
    else if c = 46 || c = 44 then fraction? b (i + 3) stop fields
    else if separated then none
    else fields? b stop (i + 2) (some separated) fields count

/-- Reads the clock that takes the bytes from `start` to `stop`. -/
def clock? (b : Array UInt8) (start stop : Nat) : Option Clock :=
  fields? b stop start none [] 3

/-- The position of the sign or of the `Z` that starts the offset, or the end of the text. The
    position after `i` counts even at the end of the text. -/
def offsetStart (b : Array UInt8) (i : Nat) : Nat → Nat
  | 0 => i
  | more + 1 =>
    let c := byteAt b i
    if c = 43 || c = 45 || c = 90 then i
    else if more = 0 then i + 1
    else offsetStart b (i + 1) more

/-- Reads the offset whose sign is at `i`. An offset of less than a second is universal time. -/
def offset? (b : Array UInt8) (i : Nat) : Option Offset := do
  if byteAt b i = 90 then
    if byteAt b (i + 1) = 0 then return .utc else none
  else
    let c ← clock? b (i + 1) b.size
    if c.more then none
    else
      let seconds : Int := (c.hour * 60 + c.minute) * 60 + c.second
      let micros := if seconds = 0 then 0 else seconds * 1000000 + c.microsecond
      let o : Offset := ⟨if byteAt b i = 45 then -micros else micros⟩
      if o.isValid then return o else none

/-- The number of bytes of the character that starts with this byte. -/
def characterSize (c : UInt8) : Nat :=
  if c < 128 then 1 else if c &&& 0xf0 = 0xe0 then 3 else if c &&& 0xf0 = 0xf0 then 4 else 2

/-- Reads a moment that is all of the text. -/
def moment? (text : String) : Option Moment := do
  let b := text.toUTF8.data
  if b.size < 7 then none
  else
    let stop := dayEnd b
    let date ← day? b stop
    if b.size ≤ stop then return .midnight date
    else
      let start := stop + characterSize (byteAt b stop)
      let zone := offsetStart b start (b.size - start)
      let c ← clock? b start zone
      let offset ←
        if zone = b.size then if c.more then none else some none
        else (offset? b zone).map some
      let m : Moment := ⟨date, c.hour, c.minute, c.second, c.microsecond, offset⟩
      if m.isValid then return m else none

end Stencil.Iso
