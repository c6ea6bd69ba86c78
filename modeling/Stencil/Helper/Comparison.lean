import Stencil.Value.Number

set_option autoImplicit false

/-! # Helpers for numbers and comparisons

The functions that templates compute and decide with. Operands of arithmetic and of the order are
taken as numbers; equality is that of values, but a truth value is never equal to a number. -/

namespace Stencil.Helper

/-- The result of an operation on two values taken as numbers. -/
def arithmetic (operation : Number → Number → Outcome Number) (a b : Value) : Outcome Value := do
  let n ← operation a.toNumber b.toNumber
  return n.toValue

/-- Whether a value is a truth value. -/
def isTruthValue : Value → Bool
  | .bool _ => true
  | _ => false

/-- Whether two values are equal and both or neither are truth values. -/
def strictlyEqual (a b : Value) : Bool :=
  isTruthValue a == isTruthValue b && a.equal b

/-- Whether two values taken as numbers are in an order that `accepts`; not a number is in none. -/
def ordered (accepts : Ordering → Bool) (a b : Value) : Bool :=
  (a.toNumber.compare? b.toNumber).any accepts

end Stencil.Helper
