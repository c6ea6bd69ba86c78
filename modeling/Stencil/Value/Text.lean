import Stencil.Double.Decimal
import Stencil.Fault
import Stencil.Text.Quoted
import Stencil.Value.Basic

set_option autoImplicit false

/-! # Values as text

Three texts of a value:

* `Value.literal` writes a value the way it stands inside a list or a mapping, with quotes around
  texts;
* `Value.plain` writes a text as it is and everything else as its literal, which is what cards
  print;
* `Value.displayText` is what a page shows for a value: nothing for nothing, items separated by
  commas, integral numbers without a point.

Integers of more than `digitLimit` digits are not written at all: `Value.display` is `displayText`
unless the value holds such an integer. -/

namespace Stencil

-- A power is the one of the numbers themselves, whatever other structure they are given.
attribute [local instance (2000)] instPowNat

/-- The most digits that a written integer may have. -/
def digitLimit : Nat := 4300

namespace Value

/-! ## Literals -/

/-- The literal of a date. -/
def dateLiteral (d : Date) : String :=
  "datetime.date(" ++ ", ".intercalate [toString d.year, toString d.month, toString d.day] ++ ")"

/-- The literal of a duration of less than a day, with whole days taken off until none is owed. -/
def durationLiteral (micros : Int) : String :=
  let days := micros / 86400000000
  let rest := (micros % 86400000000).toNat
  let parts :=
    (if days = 0 then [] else ["days=" ++ toString days]) ++
      (if rest / 1000000 = 0 then [] else ["seconds=" ++ toString (rest / 1000000)]) ++
      (if rest % 1000000 = 0 then [] else ["microseconds=" ++ toString (rest % 1000000)])
  "datetime.timedelta(" ++ ", ".intercalate parts ++ ")"

/-- The literal of a zone. -/
def zoneLiteral (o : Offset) : String :=
  if o.micros = 0 then "datetime.timezone.utc"
  else "datetime.timezone(" ++ durationLiteral o.micros ++ ")"

/-- The literal of a moment: seconds and microseconds only as far as there are any. -/
def momentLiteral (m : Moment) : String :=
  let fields := [m.date.year, m.date.month, m.date.day, m.hour, m.minute].map toString
  let seconds :=
    if m.microsecond ≠ 0 then [toString m.second, toString m.microsecond]
    else if m.second ≠ 0 then [toString m.second]
    else []
  let zone :=
    match m.offset with
    | some o => ["tzinfo=" ++ zoneLiteral o]
    | none => []
  "datetime.datetime(" ++ ", ".intercalate (fields ++ seconds ++ zone) ++ ")"

mutual

/-- A value as it is written inside other values. -/
def literal : Value → String
  | .null => "None"
  | .bool b => if b then "True" else "False"
  | .int n => toString n
  | .float x => x.literal
  | .str s => Text.quoted s
  | .bytes b => Text.quotedBytes b
  | .date d => dateLiteral d
  | .moment m => momentLiteral m
  | .zone o => zoneLiteral o
  | .list xs => "[" ++ ", ".intercalate (itemLiterals xs) ++ "]"
  | .tuple [x] => "(" ++ x.literal ++ ",)"
  | .tuple xs => "(" ++ ", ".intercalate (itemLiterals xs) ++ ")"
  | .map es => "\x7b" ++ ", ".intercalate (entryLiterals es) ++ "\x7d"
  | .record fs => "namespace(" ++ ", ".intercalate (fieldLiterals fs) ++ ")"
  | .function (.registered _) n => "<function " ++ n ++ ">"
  | .function (.other a) _ => a.literal
  | .undefined => "Undefined"

/-- The literals of items. -/
def itemLiterals : List Value → List String
  | [] => []
  | x :: xs => x.literal :: itemLiterals xs

/-- The literals of entries. -/
def entryLiterals : List (Value × Value) → List String
  | [] => []
  | (k, v) :: es => (k.literal ++ ": " ++ v.literal) :: entryLiterals es

/-- The literals of fields. -/
def fieldLiterals : List (String × Value) → List String
  | [] => []
  | (k, v) :: fs => (k ++ "=" ++ v.literal) :: fieldLiterals fs

end

/-! ## Plain text and display -/

/-- A value on its own as text. -/
def plain : Value → String
  | .str s => s
  | .date d => d.iso
  | .moment m => m.iso " "
  | .zone o => o.name
  | .function (.other _) s => s
  | .undefined => ""
  | v => v.literal

mutual

/-- A value as a page shows it. -/
def displayText : Value → String
  | .null => ""
  | .bool b => if b then "true" else "false"
  | .float x => x.display
  | .list xs => ",".intercalate (itemDisplays xs)
  | .tuple xs => ",".intercalate (itemDisplays xs)
  | v => v.plain

/-- The items as a page shows them. -/
def itemDisplays : List Value → List String
  | [] => []
  | x :: xs => x.displayText :: itemDisplays xs

end

/-! ## Integers that are too long -/

mutual

/-- Whether a value holds an integer that is too long to be written. -/
def isTooLong : Value → Bool
  | .int n => 10 ^ digitLimit ≤ n.natAbs
  | .list xs => itemsTooLong xs
  | .tuple xs => itemsTooLong xs
  | .map es => entriesTooLong es
  | .record fs => fieldsTooLong fs
  | _ => false

/-- Whether one of the items holds an integer that is too long. -/
def itemsTooLong : List Value → Bool
  | [] => false
  | x :: xs => x.isTooLong || itemsTooLong xs

/-- Whether one of the entries holds an integer that is too long. -/
def entriesTooLong : List (Value × Value) → Bool
  | [] => false
  | (k, v) :: es => k.isTooLong || v.isTooLong || entriesTooLong es

/-- Whether one of the fields holds an integer that is too long. -/
def fieldsTooLong : List (String × Value) → Bool
  | [] => false
  | (_, v) :: fs => v.isTooLong || fieldsTooLong fs

end

/-- The text that a page shows for a value. -/
def display (v : Value) : Outcome String :=
  if v.isTooLong then .error .tooManyDigits else .ok v.displayText

/-- The text that a card prints for a value. -/
def print (v : Value) : Outcome String :=
  if v.isTooLong then .error .tooManyDigits else .ok v.plain

/-- Displaying fails only because of an integer that is too long. -/
theorem display_eq_ok_iff {v : Value} {s : String} :
    v.display = .ok s ↔ v.isTooLong = false ∧ v.displayText = s := by
  unfold display
  split <;> simp_all

end Value

end Stencil
