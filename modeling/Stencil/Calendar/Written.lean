import Stencil.Calendar.Iso
import Stencil.Double.Basic
import Stencil.Text.Blank
import Stencil.Text.Digit

set_option autoImplicit false

/-! # Dates as pages write them

The three ways in which a page shows a moment, and the ways in which a moment may be given: in
ISO 8601, as a date in one of four written forms, or as milliseconds since 1970. Month and weekday
names are English. -/

namespace Stencil

-- A power is the one of the numbers themselves, whatever other structure they are given.
attribute [local instance (2000)] instPowNat

/-! ## Showing -/

/-- The ways to show a moment. -/
inductive DatePreset where
  | short
  | long
  | time
  deriving DecidableEq, Repr

/-- The preset with a name. -/
def DatePreset.ofName? : String → Option DatePreset
  | "short" => some .short
  | "long" => some .long
  | "time" => some .time
  | _ => none

/-- How a moment is shown: `Jan 5, 2024`, `Friday, January 5, 2024` or `1/5/2024, 1:07 PM`. -/
def Moment.show (m : Moment) : DatePreset → String
  | .short =>
    String.ofList (m.date.monthName.toList.take 3) ++ " " ++ toString m.date.day ++ ", " ++
      toString m.date.year
  | .long =>
    m.date.weekdayName ++ ", " ++ m.date.monthName ++ " " ++ toString m.date.day ++ ", " ++
      toString m.date.year
  | .time =>
    let hour := if m.hour % 12 = 0 then 12 else m.hour % 12
    toString m.date.month ++ "/" ++ toString m.date.day ++ "/" ++ toString m.date.year ++ ", " ++
      toString hour ++ ":" ++ padded 2 m.minute ++ (if m.hour < 12 then " AM" else " PM")

/-! ## Written dates -/

namespace WrittenDate

open Text

/-- A reader gives, in order of preference, each value that it can read off the start of a text,
    with the rest of the text. -/
abbrev Reader (α : Type) := List Char → List (α × List Char)

/-- Reads with `r` and then, after each value that it gives, with `next`. -/
def Reader.andThen {α β : Type} (r : Reader α) (next : α → Reader β) : Reader β := fun cs =>
  (r cs).flatMap fun (a, cs) => next a cs

/-- Reads with `r` and makes something of each value. -/
def Reader.yield {α β : Type} (r : Reader α) (make : α → β) : Reader β := fun cs =>
  (r cs).map fun (a, cs) => (make a, cs)

/-- Reads one character. -/
def character (c : Char) : Reader Unit
  | d :: cs => if c = d then [((), cs)] else []
  | [] => []

/-- Reads one or more blanks, preferably many. -/
def blanks : Reader Unit
  | c :: cs => if isBlank c then blanks cs ++ [((), cs)] else []
  | [] => []

/-- Reads one of the ASCII digits from `low` to `high`. -/
def digitBetween (low high : Nat) : Reader Nat
  | c :: cs =>
    if 48 + low ≤ c.toNat && c.toNat ≤ 48 + high then [(c.toNat - 48, cs)] else []
  | [] => []

/-- Reads a digit of any script. -/
def anyDigit : Reader Nat
  | c :: cs => ((digitValue? c).map fun d => (d, cs)).toList
  | [] => []

/-- Reads a tens digit from `low` to `high` and then a units digit. -/
def twoDigits (low high : Nat) (units : Reader Nat) : Reader Nat := fun cs =>
  (digitBetween low high cs).flatMap fun (t, cs) => (units cs).map fun (u, cs) => (10 * t + u, cs)

/-- Reads a day of the month: two digits if possible, else one, which a space may precede. -/
def day : Reader Nat := fun cs =>
  twoDigits 3 3 (digitBetween 0 1) cs ++ twoDigits 1 2 anyDigit cs ++
    twoDigits 0 0 (digitBetween 1 9) cs ++ digitBetween 1 9 cs ++
    (character ' ' cs).flatMap fun (_, cs) => digitBetween 1 9 cs

/-- Reads the number of a month: two digits if possible, else one. -/
def month : Reader Nat := fun cs =>
  twoDigits 1 1 (digitBetween 0 2) cs ++ twoDigits 0 0 (digitBetween 1 9) cs ++ digitBetween 1 9 cs

/-- Reads a year of four digits. -/
def year : Reader Nat := fun cs =>
  let ds := cs.take 4
  if ds.length = 4 && ds.all isDigit then [(digitsValue 0 ds, cs.drop 4)] else []

/-- Reads one of the names, whatever the case of its letters, as its place among them from 1 on. -/
def name (names : List String) : Reader Nat := fun cs =>
  let found := names.findIdx? fun n =>
    let size := n.length
    (cs.take size).map Char.toLower == n.toList.map Char.toLower
  match found with
  | some i => [(i + 1, cs.drop (names.getD i "").length)]
  | none => []

/-- Reads the given month, a day and a year, as in `May 5, 2024`. -/
def named (months : List String) : Reader Date :=
  (name months).andThen fun m => blanks.andThen fun _ => day.andThen fun d =>
    (character ',').andThen fun _ => blanks.andThen fun _ => year.yield fun y => ⟨y, m, d⟩

/-- Reads year, month and day, as in `2024/5/13`. -/
def yearFirst : Reader Date :=
  year.andThen fun y => (character '/').andThen fun _ => month.andThen fun m =>
    (character '/').andThen fun _ => day.yield fun d => ⟨y, m, d⟩

/-- Reads month, day and year, as in `5/13/2024`. -/
def monthFirst : Reader Date :=
  month.andThen fun m => (character '/').andThen fun _ => day.andThen fun d =>
    (character '/').andThen fun _ => year.yield fun y => ⟨y, m, d⟩

/-- The written forms, in the order in which they are tried. -/
def forms : List (Reader Date) :=
  [named monthNames, named (monthNames.map fun n => String.ofList (n.toList.take 3)), yearFirst,
    monthFirst]

/-- The date that a form gives for all of a text. Only the reading that the form prefers counts. -/
def readWith? (form : Reader Date) (cs : List Char) : Option Date :=
  match form cs with
  | (d, []) :: _ => if d.isValid then some d else none
  | _ => none

/-- Reads a date that is all of the text, in the first of the written forms that gives one. -/
def read? (cs : List Char) : Option Date :=
  forms.findSome? (readWith? · cs)

end WrittenDate

/-! ## Reading -/

namespace Moment

/-- Reads a moment that is all of the text but for blanks around it: in ISO 8601, where a `Z` stands
    for universal time, or else as a written date. -/
def read? (text : String) : Option Moment :=
  let cs := Text.trim text.toList
  let cs := if cs.getLast? = some 'Z' then cs.dropLast ++ "+00:00".toList else cs
  (Iso.moment? (String.ofList cs)).or ((WrittenDate.read? cs).map midnight)

/-- The number of 1970-01-01. -/
def epochDay : Nat := (Date.mk 1970 1 1).dayNumber

/-- The moment this many microseconds after the start of 1970 in universal time. -/
def ofEpochMicros? (micros : Int) : Option Moment := do
  let seconds := micros / 1000000
  let date ← Date.ofDayNumber? (seconds / 86400 + epochDay)
  let second := (seconds % 86400).toNat
  return ⟨date, second / 3600, second / 60 % 60, second % 60, (micros % 1000000).toNat, some .utc⟩

/-- The moment this many seconds after the start of 1970 in universal time. The fraction of a second
    is rounded to microseconds, a half to the even one. -/
def ofEpochSeconds? (seconds : Double) : Option Moment := do
  let whole ← seconds.truncate?
  let fraction := (seconds.sub (.ofInt whole)).mul (.ofInt 1000000)
  match fraction with
  | .finite n m e =>
    let size :=
      if 0 ≤ e then m * 2 ^ e.toNat else Double.roundHalfEven m (2 ^ (-e).toNat)
    ofEpochMicros? (whole * 1000000 + (if n then -(size : Int) else size))
  | _ => none

/-- The moment this many milliseconds after the start of 1970 in universal time. -/
def ofEpochMillis? (millis : Double) : Option Moment :=
  ofEpochSeconds? (millis.div (.ofInt 1000))

end Moment

example : (Moment.read? "May 5, 2024").map (·.iso "T") = some "2024-05-05T00:00:00" := by
  decide +kernel

example : (Moment.read? " 5/13/2024 ").map (·.show .long) = some "Monday, May 13, 2024" := by
  decide +kernel

example : (Moment.ofEpochMillis? (.ofInt 1704412800500)).map (·.show .time) =
    some "1/5/2024, 12:00 AM" := by decide +kernel

end Stencil
