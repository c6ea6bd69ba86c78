import Stencil.Double.Decimal
import Stencil.Fault
import Stencil.Value.Basic

set_option autoImplicit false

/-! # Numbers in values

How values turn into numbers for the arithmetic helpers, how numbers are added, subtracted,
multiplied and divided, and how results turn back into values. Integers stay exact until they meet a
double; an integral result below `10 ^ 21` is an integer again. -/

namespace Stencil

-- A power is the one of the numbers themselves, whatever other structure they are given.
attribute [local instance (2000)] instPowNat

namespace Numeral

/-- Reads a numeral that is all of a token but for one line break at its end. -/
def readToken? (cs : List Char) : Option Numeral :=
  read? (if cs.getLast? = some '\n' then cs.dropLast else cs)

/-- The value of a numeral: an integer if the double nearest to it is integral and it is written
    without an exponent. -/
def value (n : Numeral) : Value :=
  match n.toDouble.toInt?, n.scientific with
  | some k, false => .int k
  | _, _ => .float n.toDouble

end Numeral

namespace Number

/-- An integral double below `10 ^ 21` as the integer it denotes. -/
def toValue : Number → Value
  | .int n => .int n
  | .float x =>
    match x.toInt? with
    | some n => if n.natAbs < 10 ^ (21 : Nat) then .int n else .float x
    | none => .float x

/-- The double nearest to a number. -/
def toDouble? : Number → Outcome Double
  | .float x => .ok x
  | .int n =>
    match Double.ofInt n with
    | .infinite _ => .error .integerTooLarge
    | x => .ok x

/-- Whether a number is zero. -/
def isZero : Number → Bool
  | .int n => n == 0
  | .float x => x.isZero

/-- Whether a number is not a number. -/
def isNaN : Number → Bool
  | .int _ => false
  | .float x => x.isNaN

/-- Applies an operation exactly to two integers, or else to the doubles nearest to the operands. -/
def combine (exact : Int → Int → Int) (rounded : Double → Double → Double) (a b : Number) :
    Outcome Number :=
  match a, b with
  | .int m, .int n => .ok (.int (exact m n))
  | a, b => do
    let x ← a.toDouble?
    let y ← b.toDouble?
    return .float (rounded x y)

/-- The sum. -/
def add (a b : Number) : Outcome Number := combine (· + ·) Double.add a b

/-- The difference. -/
def sub (a b : Number) : Outcome Number := combine (· - ·) Double.sub a b

/-- The product. -/
def mul (a b : Number) : Outcome Number := combine (· * ·) Double.mul a b

/-- What division by a zero gives: an infinity with the sign of the quotient, or not a number when
    the dividend is zero or not a number itself. -/
def divByZero (a b : Number) : Outcome Number := do
  if a.isZero || a.isNaN then return .float .nan
  else
    let x ← a.toDouble?
    let y ← b.toDouble?
    return .float (.infinite (x.isNegative != y.isNegative))

/-- The quotient, which is always a double. The quotient of two integers is rounded once. -/
def div (a b : Number) : Outcome Number :=
  match a, b with
  | .int m, .int n =>
    if n = 0 then divByZero a b
    else
      match Double.ofRatio ((m < 0) != (n < 0)) m.natAbs n.natAbs with
      | .infinite _ => .error .quotientTooLarge
      | x => .ok (.float x)
  | a, b => do
    let x ← a.toDouble?
    let y ← b.toDouble?
    if y.isZero then divByZero a b else return .float (x.div y)

end Number

namespace Value

/-- The number that a value is taken for: a text for the numeral that it holds, a blank text for
    zero, anything that is no number for not a number. Truth values count as doubles. -/
def toNumber : Value → Number
  | .bool b => .float (if b then .one else .zero)
  | .int n => .int n
  | .float x => .float x
  | .str s =>
    match Text.trim s.toList with
    | [] => .float .zero
    | cs => .float (((Numeral.read? cs).map Numeral.toDouble).getD .nan)
  | _ => .float .nan

/-- An integral double below `10 ^ 21` as the integer it denotes, and any other value as it is. -/
def collapse : Value → Value
  | .float x => (Number.float x).toValue
  | v => v

end Value

end Stencil
