import Stencil.Helper.Basic
import Stencil.Helper.Comparison
import Stencil.Helper.Texts

set_option autoImplicit false

/-! # The helpers of the library

The helpers that every engine starts with. -/

namespace Stencil

namespace Builtin

/-- The argument at a place. -/
def argument (arguments : List Value) (i : Nat) (default : Value) : Value :=
  arguments.getD i default

/-- A function of one text. -/
def ofText (name : String) (f : Value → Outcome Value) : Builtin :=
  { name := name
    function := name
    required := ["text"]
    optionals := 0
    run := fun xs => f (argument xs 0 .null) }

/-- A function of two operands. -/
def ofPair (name : String) (f : Value → Value → Outcome Value) : Builtin :=
  { name := name
    function := name
    required := ["a", "b"]
    optionals := 0
    run := fun xs => f (argument xs 0 .null) (argument xs 1 .null) }

/-- A decision on two operands. -/
def ofTest (name : String) (test : Value → Value → Bool) : Builtin :=
  ofPair name fun a b => .ok (.bool (test a b))

/-- Dates in words. -/
def formatDate : Builtin :=
  { name := "formatDate"
    function := "format_date"
    required := ["value"]
    optionals := 1
    run := fun xs => .ok (Helper.formatDate (argument xs 0 .null) (argument xs 1 (.str "long"))) }

/-- Texts with a capital first. -/
def capitalize : Builtin := ofText "capitalize" Helper.capitalize

/-- The helpers of the library, in order. -/
def all : List Builtin := [
  formatDate,
  { name := "truncate"
    function := "truncate"
    required := ["text"]
    optionals := 2
    run := fun xs =>
      Helper.truncate (argument xs 0 .null) (argument xs 1 (.int 100))
        (argument xs 2 (.str "...")) },
  { name := "join"
    function := "join"
    required := ["items"]
    optionals := 1
    run := fun xs => Helper.join (argument xs 0 .null) (argument xs 1 (.str ", ")) },
  ofText "upper" Helper.upper,
  ofText "lower" Helper.lower,
  capitalize,
  { name := "default"
    function := "default"
    required := ["value"]
    optionals := 1
    run := fun xs => .ok (Helper.orElse (argument xs 0 .null) (argument xs 1 (.str ""))) },
  ofPair "add" (Helper.arithmetic Number.add),
  ofPair "subtract" (Helper.arithmetic Number.sub),
  ofPair "multiply" (Helper.arithmetic Number.mul),
  ofPair "divide" (Helper.arithmetic Number.div),
  ofTest "eq" Helper.strictlyEqual,
  ofTest "ne" (fun a b => !Helper.strictlyEqual a b),
  ofTest "gt" (Helper.ordered (· == .gt)),
  ofTest "lt" (Helper.ordered (· == .lt)),
  ofTest "gte" (Helper.ordered (· != .lt)),
  ofTest "lte" (Helper.ordered (· != .gt))]

/-- The registry of the library's helpers. -/
def registry : Registry Helper :=
  all.map fun b => (b.name, b.helper)

end Builtin

end Stencil
