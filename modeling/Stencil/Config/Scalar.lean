import Stencil.Double.Decimal
import Stencil.Text.Casing
import Stencil.Value.Basic
import Stencil.Value.Text

set_option autoImplicit false

/-! # Scalars in settings

Texts in settings that read as truth values or numbers. Numbers may have blanks around them and
single underscores between their digits. -/

namespace Stencil.Scalar

open Text

/-- Whether a character may stand around a number. -/
def isOuterBlank (c : Char) : Bool :=
  isBlank c && !(28 ≤ c.toNat && c.toNat < 32)

/-- A text without the blanks around it that a number may have. -/
def trimNumber (cs : List Char) : List Char :=
  ((cs.dropWhile isOuterBlank).reverse.dropWhile isOuterBlank).reverse

/-- A text without the underscores between its digits; an underscore in another place is an
    error. -/
def withoutUnderscores? (afterDigit : Bool) : List Char → Option (List Char)
  | [] => some []
  | '_' :: c :: cs =>
    if afterDigit && isDigit c then (withoutUnderscores? true cs).map (c :: ·) else none
  | c :: cs => if c = '_' then none else (withoutUnderscores? (isDigit c) cs).map (c :: ·)

/-- Reads an integer that is all of the text, with at most as many digits as a written integer may
    have. -/
def int? (cs : List Char) : Option Int := do
  let (negative, ds) := Numeral.sign (trimNumber cs)
  let ds ← withoutUnderscores? false ds
  if ds.isEmpty || !ds.all isDigit || digitLimit < ds.length then none
  else
    let n : Int := digitsValue 0 ds
    return if negative then -n else n

/-- The words for numbers that have no digits. -/
def special? (cs : List Char) : Option Double :=
  let (negative, w) := Numeral.sign cs
  let w := w.map Char.toLower
  if w = "inf".toList || w = "infinity".toList then some (.infinite negative)
  else if w = "nan".toList then some .nan
  else none

/-- Reads a number that is all of the text. -/
def double? (cs : List Char) : Option Double := do
  let cs := trimNumber cs
  match special? cs with
  | some x => return x
  | none =>
    let cs ← withoutUnderscores? false cs
    let n ← Numeral.read? cs
    return n.toDouble

/-- What a text reads as: a truth value, an integer, another number, or else itself. -/
def ofText (cs : List Char) : Value :=
  let word := String.ofList (toLower cs)
  if ["true", "yes", "on"].contains word then .bool true
  else if ["false", "no", "off"].contains word then .bool false
  else
    match int? cs, double? cs with
    | some n, _ => .int n
    | none, some x => .float x
    | none, none => .str (String.ofList cs)

example : int? "1_000".toList = some 1000 ∧ int? "1__0".toList = none ∧
    (double? " -2.5e1 ".toList).map Double.literal = some "-25.0" := by decide +kernel

end Stencil.Scalar
