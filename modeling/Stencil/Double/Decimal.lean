import Stencil.Double.Basic
import Stencil.Text.Digit
import Stencil.Text.Blank

set_option autoImplicit false

/-! # Decimal text of doubles

Reading rounds a decimal numeral to the nearest double. Writing uses the fewest significant digits
that read back as the same double, and of several such digit strings the one nearest to it.

* `Double.ofDecimal` and `Double.shortest` are the two directions on digits and powers of ten.
* `DecimalLayout` says how the digits are laid out; `Double.literal` and `Double.display` are the
  two layouts in use.
-/

namespace Stencil

-- A power is the one of the numbers themselves, whatever other structure they are given.
attribute [local instance (2000)] instPowNat

/-! ## Powers of ten -/

/-- The number of decimal digits of `n`; zero has none. -/
def decimalLength (n : Nat) : Nat :=
  if n = 0 then 0 else (Nat.toDigits 10 n).length

namespace Double

/-- The double nearest to `digits * 10 ^ power`. Numbers far outside the range of doubles are not
    computed: they are infinite or zero. -/
def ofDecimal (negative : Bool) (digits : Nat) (power : Int) : Double :=
  let magnitude : Int := decimalLength digits + power
  if digits = 0 || magnitude < -400 then .finite negative 0 (-1074)
  else if 400 < magnitude then .infinite negative
  else if 0 ≤ power then ofRatio negative (digits * 10 ^ power.toNat) 1
  else ofRatio negative digits (10 ^ (-power).toNat)

/-- The exponent `k` with `10 ^ k ≤ num / den < 10 ^ (k + 1)`; both are positive. -/
def decimalExponent (num den : Nat) : Int :=
  if den ≤ num then (decimalLength (num / den) : Int) - 1
  else -(decimalLength ((den - 1) / num) : Int)

/-! ## The fewest digits that read back -/

/-- The reals that round to a positive double, scaled to integers: `value / unit` is the double,
    `low / unit` and `high / unit` the ends, which belong to it iff `closed`. -/
structure RoundingInterval where
  value : Nat
  low : Nat
  high : Nat
  unit : Nat
  closed : Bool

/-- The reals that round to `m * 2 ^ e`. Below a power of two the next double is only half as far
    away. -/
def roundingInterval (m : Nat) (e : Int) : RoundingInterval :=
  let below := if m = 2 ^ (52 : Nat) && -1074 < e then 1 else 2
  let scale : Nat := if 0 ≤ e then 2 ^ e.toNat else 1
  { value := 4 * m * scale
    low := (4 * m - below) * scale
    high := (4 * m + 2) * scale
    unit := 4 * (if 0 ≤ e then 1 else 2 ^ (-e).toNat)
    closed := m % 2 == 0 }

/-- Whether `num / den` lies in the interval. -/
def RoundingInterval.contains (i : RoundingInterval) (num den : Nat) : Bool :=
  if i.closed then i.low * den ≤ num * i.unit && num * i.unit ≤ i.high * den
  else i.low * den < num * i.unit && num * i.unit < i.high * den

/-- The point of the grid of multiples of `10 ^ power` that is nearest to the double among those
    that read back as it, as a number of grid steps. -/
def RoundingInterval.gridPoint? (i : RoundingInterval) (power : Int) : Option Nat :=
  let up : Nat := if 0 ≤ power then 10 ^ power.toNat else 1
  let down : Nat := if 0 ≤ power then 1 else 10 ^ (-power).toNat
  let lower := i.value * down / (i.unit * up)
  let rest := i.value * down % (i.unit * up)
  let fits (d : Nat) : Bool := i.contains (d * up) down
  match fits lower, fits (lower + 1) with
  | true, true =>
    if 2 * rest < i.unit * up then some lower
    else if i.unit * up < 2 * rest then some (lower + 1)
    else some (lower + lower % 2)
  | true, false => some lower
  | false, true => some (lower + 1)
  | false, false => none

/-- The digits of a positive double, tried with `count` digits and then with more, `more` times. -/
def shortestFrom (i : RoundingInterval) (exponent : Int) (count : Nat) : Nat → Nat × Int
  | 0 => (0, 0)
  | more + 1 =>
    let power := exponent + 1 - count
    match i.gridPoint? power with
    | some d => (d, power)
    | none => shortestFrom i exponent (count + 1) more

/-- The digits and the power of ten of the shortest decimal that reads back as `m * 2 ^ e`;
    seventeen digits always suffice. -/
def shortest (m : Nat) (e : Int) : Nat × Int :=
  let i := roundingInterval m e
  shortestFrom i (decimalExponent i.value i.unit) 1 17

end Double

/-! ## Layout -/

/-- How the digits of a number are laid out. -/
structure DecimalLayout where
  /-- The least decimal exponent written positionally. -/
  leastPositional : Int
  /-- The least decimal exponent too large to be written positionally. -/
  leastScientific : Int
  /-- The least number of digits of a written exponent. -/
  exponentDigits : Nat
  /-- The text of not a number. -/
  nan : String
  /-- The text of infinity, after its sign. -/
  infinity : String

/-- Literals: positional from `0.0001` up to sixteen digits, an exponent of at least two digits. -/
def DecimalLayout.literal : DecimalLayout := ⟨-4, 16, 2, "nan", "inf"⟩

/-- Pages show numbers as literals do, but have their own words for the extremes. -/
def DecimalLayout.display : DecimalLayout := ⟨-4, 16, 2, "NaN", "Infinity"⟩

/-- A run of `n` zeros. -/
def zeroRun (n : Nat) : String :=
  String.ofList (List.replicate n '0')

namespace DecimalLayout

/-- The digits `ds` times ten to the `exponent`, the first digit standing before the point. -/
def layOut (l : DecimalLayout) (ds : List Char) (exponent : Int) : String :=
  if l.leastPositional ≤ exponent && exponent < l.leastScientific then
    if exponent < 0 then
      "0." ++ zeroRun ((-exponent).toNat - 1) ++ String.ofList ds
    else
      let whole := exponent.toNat + 1
      let pad := zeroRun (whole - ds.length)
      let fraction := ds.drop whole
      String.ofList (ds.take whole) ++ pad ++ "." ++
        (if fraction.isEmpty then "0" else String.ofList fraction)
  else
    let mantissa :=
      match ds with
      | [] => ""
      | [d] => String.ofList [d]
      | d :: rest => String.ofList (d :: '.' :: rest)
    let size := toString exponent.natAbs
    mantissa ++ "e" ++ (if exponent < 0 then "-" else "+") ++
      zeroRun (l.exponentDigits - size.length) ++ size

/-- The text of a double. Zeros at the end of the shortest digits are not significant. -/
def write (l : DecimalLayout) : Double → String
  | .nan => l.nan
  | .infinite n => (if n then "-" else "") ++ l.infinity
  | .finite n m e =>
    let sign := if n then "-" else ""
    if m = 0 then sign ++ l.layOut ['0'] 0
    else
      let (d, power) := Double.shortest m e
      let ds := Nat.toDigits 10 d
      let significant := (ds.reverse.dropWhile (· == '0')).reverse
      sign ++ l.layOut significant (power + ds.length - 1)

end DecimalLayout

/-- The literal of a double: it reads back as the same double and always shows that it is one. -/
def Double.literal (x : Double) : String :=
  DecimalLayout.literal.write x

/-- How a page shows a double: an integral one below `10 ^ 21` as an integer. -/
def Double.display (x : Double) : String :=
  match x.toInt? with
  | some n => if n.natAbs < 10 ^ (21 : Nat) then toString n else DecimalLayout.display.write x
  | none => DecimalLayout.display.write x

/-! ## Reading -/

/-- A decimal numeral taken apart. -/
structure Numeral where
  negative : Bool
  digits : Nat
  power : Int
  /-- Whether the numeral is written with an exponent. -/
  scientific : Bool

/-- The double nearest to a numeral. -/
def Numeral.toDouble (n : Numeral) : Double :=
  .ofDecimal n.negative n.digits n.power

namespace Numeral

open Text

/-- A sign, if there is one, and the rest of the text. -/
def sign : List Char → Bool × List Char
  | '+' :: cs => (false, cs)
  | '-' :: cs => (true, cs)
  | cs => (false, cs)

/-- The exponent that is all of the text: an `e`, a sign and digits. -/
def exponent? : List Char → Option Int
  | c :: cs =>
    if c == 'e' || c == 'E' then
      let (negative, ds) := sign cs
      if ds.isEmpty || !ds.all isDigit then none
      else
        let n : Int := digitsValue 0 ds
        some (if negative then -n else n)
    else none
  | [] => none

/-- Reads a numeral that is all of the text: a sign, digits with at most one point among them and at
    least one digit, and an exponent. -/
def read? (cs : List Char) : Option Numeral :=
  let (negative, cs) := sign cs
  let whole := cs.takeWhile isDigit
  let cs := cs.dropWhile isDigit
  let (fraction, cs) :=
    match cs with
    | '.' :: rest => (rest.takeWhile isDigit, rest.dropWhile isDigit)
    | _ => ([], cs)
  if whole.isEmpty && fraction.isEmpty then none
  else
    let digits := digitsValue (digitsValue 0 whole) fraction
    match cs with
    | [] => some ⟨negative, digits, -(fraction.length : Int), false⟩
    | _ => (exponent? cs).map fun e => ⟨negative, digits, e - fraction.length, true⟩

end Numeral

example : (Double.ofDecimal false 1 (-1)).literal = "0.1" := by decide +kernel

example : (Double.ofDecimal false 1 21).display = "1e+21" ∧
    (Double.ofDecimal false 1 20).display = "100000000000000000000" ∧
    (Double.ofDecimal false 5 (-324)).literal = "5e-324" ∧
    (Double.ofDecimal true 25 (-1)).display = "-2.5" := by decide +kernel

end Stencil
