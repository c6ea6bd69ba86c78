import Stencil.Calendar.Basic
import Stencil.Config.Scalar
import Stencil.Value.Path
import Stencil.Yaml.Marks

set_option autoImplicit false

/-! # What plain scalars mean

A scalar without quotes is nothing, a truth value, a number, a date or a moment if it is written
like one, and else a text. -/

namespace Stencil.Yaml

/-! ## Numbers -/

/-- Whether a text is a digit and then digits and underscores. -/
def isDigits (cs : List Char) : Bool :=
  match cs with
  | [] => false
  | c :: cs => c.isDigit && cs.all fun c => c.isDigit || c == '_'

/-- A text without its underscores. -/
def bare (cs : List Char) : List Char := cs.filter (· ≠ '_')

/-- The value of digits in a base; a character that is no digit counts as zero. -/
def inBase (base : Nat) (cs : List Char) : Nat :=
  cs.foldl (fun n c =>
    n * base + (if c.isDigit then c.toNat - 48 else c.toLower.toNat - 87)) 0

/-- Whether a text is the part of a number in base sixty after a colon. -/
def isSixtieth (cs : List Char) : Bool :=
  match cs with
  | [c] => c.isDigit
  | [c, d] => '0' ≤ c && c ≤ '5' && d.isDigit
  | _ => false

/-- The value of the parts of a number in base sixty. -/
def inSixties (parts : List (List Char)) : Nat :=
  parts.foldl (fun n p => n * 60 + Text.digitsValue 0 p) 0

/-- Whether a text has characters of a kind and underscores, and not only underscores. -/
def isNumeralOf (kind : Char → Bool) (cs : List Char) : Bool :=
  !(bare cs).isEmpty && cs.all fun c => kind c || c == '_'

/-- Whether a character is a digit in base two. -/
def isBinary (c : Char) : Bool := c == '0' || c == '1'

/-- Whether a character is a digit in base eight. -/
def isOctal (c : Char) : Bool := '0' ≤ c && c ≤ '7'

/-- Whether a character is a digit in base sixteen. -/
def isHexadecimal (c : Char) : Bool :=
  c.isDigit || ('a' ≤ c.toLower && c.toLower ≤ 'f')

/-- Reads an integer without its sign. -/
def natural? (cs : List Char) : Option Nat :=
  match cs with
  | '0' :: 'b' :: ds => if isNumeralOf isBinary ds then some (inBase 2 (bare ds)) else none
  | '0' :: 'x' :: ds => if isNumeralOf isHexadecimal ds then some (inBase 16 (bare ds)) else none
  | ['0'] => some 0
  | '0' :: ds => if (bare ds).all isOctal then some (inBase 8 (bare ds)) else none
  | cs =>
    match splitOn ':' cs with
    | [ds] => if isDigits ds then some (Text.digitsValue 0 (bare ds)) else none
    | d :: ds => if isDigits d && ds.all isSixtieth then some (inSixties (bare d :: ds)) else none
    | [] => none

/-- The value of the parts of a number in base sixty, from the last one on, where each part counts
    `base` times. -/
def addSixties (base : Nat) (value : Double) : List Double → Double
  | [] => value
  | d :: ds => addSixties (base * 60) (value.add (d.mul (.ofInt base))) ds

/-- The double that is written with digits, underscores and at most one point. -/
def written? (cs : List Char) : Option Double :=
  (Numeral.read? (bare cs)).map Numeral.toDouble

/-- Whether a text is nothing or the exponent of a number, which has a sign. -/
def isExponent (cs : List Char) : Bool :=
  match cs with
  | [] => true
  | e :: s :: ds => e.toLower == 'e' && (s == '+' || s == '-') && !ds.isEmpty && ds.all Char.isDigit
  | _ => false

/-- Reads a number with a point and without its sign. Without a digit before the point it cannot
    have a sign. -/
def real? (signed : Bool) (cs : List Char) : Option Double :=
  let whole := cs.takeWhile (· ≠ '.')
  match cs.dropWhile (· ≠ '.') with
  | '.' :: rest =>
    let fraction := rest.takeWhile fun c => c.isDigit || c == '_'
    let exponent := rest.dropWhile fun c => c.isDigit || c == '_'
    match splitOn ':' whole with
    | [whole] =>
      let plain := isDigits whole || (whole.isEmpty && !signed && isDigits fraction)
      if plain && isExponent exponent then
        written? (whole ++ '.' :: fraction ++ exponent)
      else none
    | d :: ds =>
      if isDigits d && ds.all isSixtieth && exponent.isEmpty then do
        let last ← written? (ds.getLast?.getD [] ++ '.' :: fraction)
        let parts ← ((d :: ds.dropLast).mapM written?)
        return addSixties 1 .zero (last :: parts.reverse)
      else none
    | [] => none
  | _ => none

/-- The base of a number that is written with underscores only. -/
def emptyBase? (cs : List Char) : Option Nat :=
  match cs with
  | '0' :: 'b' :: '_' :: ds => if (bare ds).isEmpty then some 2 else none
  | '0' :: 'x' :: '_' :: ds => if (bare ds).isEmpty then some 16 else none
  | _ => none

/-- A number apart into whether it has a sign, whether that is a minus, and the rest. -/
def splitSign (cs : List Char) : Bool × Bool × List Char :=
  match cs with
  | '-' :: ds => (true, true, ds)
  | '+' :: ds => (true, false, ds)
  | ds => (false, false, ds)

/-- The number that a scalar is. -/
def number? (cs : List Char) : Option Value :=
  let (signed, negative, ds) := splitSign cs
  match natural? ds with
  | some n => some (.int (if negative then -n else n))
  | none =>
    match real? signed ds with
    | some x => some (.float (if negative then x.neg else x))
    | none =>
      if [".inf", ".Inf", ".INF"].any fun w => w.toList = ds then some (.float (.infinite negative))
      else if !signed && ([".nan", ".NaN", ".NAN"].any fun w => w.toList = ds) then
        some (.float .nan)
      else none

/-! ## Dates -/

/-- Reads from `least` to `most` digits. -/
def digits? (least most : Nat) (cs : List Char) : Option (Nat × List Char) :=
  let ds := (cs.take most).takeWhile Char.isDigit
  if least ≤ ds.length then some (Text.digitsValue 0 ds, cs.drop ds.length) else none

/-- Reads a character. -/
def sign? (c : Char) (cs : List Char) : Option (List Char) :=
  match cs with
  | d :: ds => if c = d then some ds else none
  | [] => none

/-- A date or a moment as it is written, before it is known to be possible. -/
structure Stamp where
  date : Date
  /-- Hours, minutes, seconds, microseconds. -/
  time : Option (Nat × Nat × Nat × Nat)
  offset : Option Offset

/-- Whether a character stands between the parts of a moment. -/
def isSpace (c : Char) : Bool := c == ' ' || c == '\t'

/-- Reads the offset at the end of a moment. -/
def stampOffset? (cs : List Char) : Option (Option Offset) :=
  match cs.dropWhile isSpace with
  | [] => if cs.isEmpty then some none else none
  | ['Z'] => some (some .utc)
  | s :: ds =>
    if s = '+' || s = '-' then do
      let (h, rest) ← digits? 1 2 ds
      let m ←
        match rest with
        | [] => some 0
        | ':' :: rest => do
          let (m, rest) ← digits? 2 2 rest
          if rest.isEmpty then some m else none
        | _ => none
      let micros : Int := ((h * 60 + m) * 60000000 : Nat)
      return some ⟨if s = '-' then -micros else micros⟩
    else none

/-- Reads the time of day of a moment, after its day. -/
def stampTime? (date : Date) (cs : List Char) : Option Stamp := do
  let rest ←
    match cs with
    | 'T' :: cs => some cs
    | 't' :: cs => some cs
    | c :: _ => if isSpace c then some (cs.dropWhile isSpace) else none
    | [] => none
  let (hour, rest) ← digits? 1 2 rest
  let rest ← sign? ':' rest
  let (minute, rest) ← digits? 2 2 rest
  let rest ← sign? ':' rest
  let (second, rest) ← digits? 2 2 rest
  let (fraction, rest) :=
    match rest with
    | '.' :: rest => (rest.takeWhile Char.isDigit, rest.dropWhile Char.isDigit)
    | rest => ([], rest)
  let micros := Text.digitsValue 0 ((fraction ++ List.replicate 6 '0').take 6)
  let offset ← stampOffset? rest
  return ⟨date, some (hour, minute, second, micros), offset⟩

/-- Reads a date or a moment that is all of the text. -/
def stamp? (cs : List Char) : Option Stamp := do
  let (year, rest) ← digits? 4 4 cs
  let rest ← sign? '-' rest
  let (month, rest) ← digits? 1 2 rest
  let rest ← sign? '-' rest
  let (day, rest) ← digits? 1 2 rest
  let date : Date := ⟨year, month, day⟩
  if rest.isEmpty then if cs.length = 10 then some ⟨date, none, none⟩ else none
  else stampTime? date rest

/-- What the calendar says against a date or a moment. -/
def Stamp.objection? (s : Stamp) : Option String :=
  let d := s.date
  let (hour, minute, second, _) := s.time.getD (0, 0, 0, 0)
  if d.year < 1 then some ("year " ++ toString d.year ++ " is out of range")
  else if d.month < 1 || 12 < d.month then some "month must be in 1..12"
  else if d.day < 1 || daysInMonth d.year d.month < d.day then
    some "day is out of range for month"
  else if 23 < hour then some "hour must be in 0..23"
  else if 59 < minute then some "minute must be in 0..59"
  else if 59 < second then some "second must be in 0..59"
  else none

/-- The value of a date or a moment. -/
def Stamp.value (s : Stamp) : Value :=
  match s.time with
  | none => .date s.date
  | some (hour, minute, second, micros) => .moment ⟨s.date, hour, minute, second, micros, s.offset⟩

/-! ## Scalars -/

/-- The words for nothing. -/
def nullWords : List String := ["", "~", "null", "Null", "NULL"]

/-- The words for what is true. -/
def trueWords : List String :=
  ["yes", "Yes", "YES", "true", "True", "TRUE", "on", "On", "ON"]

/-- The words for what is false. -/
def falseWords : List String :=
  ["no", "No", "NO", "false", "False", "FALSE", "off", "Off", "OFF"]

/-- The value of a scalar without quotes. -/
def plainValue (cs : List Char) : Except Fault Value :=
  let s := String.ofList cs
  if nullWords.contains s then .ok .null
  else if trueWords.contains s then .ok (.bool true)
  else if falseWords.contains s then .ok (.bool false)
  else if s = "=" || s = "<<" then .error .malformed
  else
    match emptyBase? (splitSign cs).2.2, number? cs, stamp? cs with
    | some base, _, _ =>
      .error (.impossible ("invalid literal for int() with base " ++ toString base ++ ": ''"))
    | none, some v, _ => .ok v
    | none, none, some st =>
      match st.objection? with
      | some m => .error (.impossible m)
      | none => .ok st.value
    | none, none, none => .ok (.str s)

/-- The literal of what a scalar means, for short. -/
def plainLiteral (s : String) : Option String :=
  (plainValue s.toList).toOption.map Value.literal

example : plainLiteral "1e3" = some "'1e3'" ∧ plainLiteral "1.0" = some "1.0" ∧
    plainLiteral "-0x1F" = some "-31" ∧ plainLiteral "010" = some "8" ∧
    plainLiteral "1:30" = some "90" ∧ plainLiteral "1:30.5" = some "90.5" ∧
    plainLiteral "off" = some "False" := by decide +kernel

example : plainLiteral "2024-01-05" = some "datetime.date(2024, 1, 5)" ∧
    plainLiteral "2024-13-05" = none ∧
    plainLiteral "2024-1-5 1:02:03.5Z" =
      some "datetime.datetime(2024, 1, 5, 1, 2, 3, 500000, tzinfo=datetime.timezone.utc)" := by
  decide +kernel

end Stencil.Yaml
