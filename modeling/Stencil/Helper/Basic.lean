import Stencil.Render.Scope
import Stencil.Fault

set_option autoImplicit false

/-! # Helpers and components

The functions that a site registers for its templates. A helper gets the values of its arguments, a
component gets its keyword arguments, and both get the scope of the tag that calls them. A component
also gets the helpers that are registered when it is called, so that a helper that is replaced later
is replaced in components too. -/

namespace Stencil

/-- A function from the values of a tag's arguments and the scope of the tag. -/
abbrev Helper := List Value → Scope → Outcome Value

/-- A function from the registered helpers, the keyword arguments of a tag and its scope. -/
abbrev Component := Registry Helper → Entries → Scope → Outcome Value

/-- A function of the library with the parameters that it has. -/
structure Builtin where
  /-- The name that templates call. -/
  name : String
  /-- The name in messages. -/
  function : String
  /-- The parameters without which it cannot be called. -/
  required : List String
  /-- The number of further parameters. -/
  optionals : Nat
  /-- What it gives for the right number of arguments. -/
  run : List Value → Outcome Value

namespace Builtin

/-- What the function gives for some arguments, if their number is right. -/
def call (b : Builtin) (arguments : List Value) : Outcome Value :=
  let least := b.required.length
  let most := least + b.optionals
  let given := arguments.length
  if given < least then .error (.missingArguments b.function (b.required.drop given))
  else if most < given then .error (.tooManyArguments b.function least most given)
  else b.run arguments

/-- The function as a helper; it takes no notice of the scope. -/
def helper (b : Builtin) : Helper := fun arguments _ => b.call arguments

end Builtin

end Stencil
