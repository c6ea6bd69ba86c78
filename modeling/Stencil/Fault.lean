import Stencil.Text.Quoted

set_option autoImplicit false

/-! # Faults

What can go wrong while a template is rendered. A fault is kept as its cause; `Fault.message` is the
only place with wording. Faults of helpers and components are logged and leave a gap in the page,
the others end the render. -/

namespace Stencil

/-- The cause of a failure. -/
inductive Fault where
  /-- A function was called without the arguments for these parameters. -/
  | missingArguments (function : String) (parameters : List String)
  /-- A function with between `least` and `most` parameters was called with `given` arguments. -/
  | tooManyArguments (function : String) (least most given : Nat)
  /-- An integer has no double near it. -/
  | integerTooLarge
  /-- The quotient of two integers has no double near it. -/
  | quotientTooLarge
  /-- An infinity was used as a count. -/
  | infiniteCount
  /-- An integer has too many digits to be written. -/
  | tooManyDigits
  /-- A value of this type was used as the options of a render. -/
  | optionsNotMapping (typeName : String)
  /-- A value of this type was used as a template. -/
  | templateNotText (typeName : String)
  /-- A value of this type was asked for an attribute that it lacks. -/
  | noAttribute (typeName name : String)
  /-- A byte string was used where a text is searched. -/
  | bytesNotText
  /-- A value of this type was used as the key of a mapping. -/
  | unhashable (typeName : String)
  /-- A value of this type was gone through item by item. -/
  | notIterable (typeName : String)
  /-- A value of this type was called. -/
  | notCallable (typeName : String)
  /-- An expression holds blanks but no token. -/
  | noTokens
  /-- A helper or a component failed for a reason of its own, of a category of its own. -/
  | raised (category message : String)
  deriving DecidableEq, Repr

/-- The names of missing parameters, as a list in words. -/
def listInWords : List String → String
  | [] => ""
  | [a] => a
  | [a, b] => a ++ " and " ++ b
  | a :: rest => a ++ ", " ++ listOfMany rest
where
  /-- The end of a list of three or more. -/
  listOfMany : List String → String
    | [] => ""
    | [a] => "and " ++ a
    | a :: rest => a ++ ", " ++ listOfMany rest

/-- `1 argument`, `2 arguments`. -/
def counted (n : Nat) (noun : String) : String :=
  noun ++ (if n = 1 then "" else "s")

namespace Fault

/-- The words for a fault. -/
def message : Fault → String
  | .missingArguments f ps =>
    let names := listInWords (ps.map Text.quoted)
    f ++ "() missing " ++ toString ps.length ++ " required positional " ++
      counted ps.length "argument" ++ ": " ++ names
  | .tooManyArguments f least most given =>
    let takes :=
      if least = most then toString most ++ " positional " ++ counted most "argument"
      else "from " ++ toString least ++ " to " ++ toString most ++ " positional arguments"
    f ++ "() takes " ++ takes ++ " but " ++ toString given ++
      (if given = 1 then " was" else " were") ++ " given"
  | .integerTooLarge => "int too large to convert to float"
  | .quotientTooLarge => "integer division result too large for a float"
  | .infiniteCount => "cannot convert float infinity to integer"
  | .tooManyDigits =>
    "Exceeds the limit (4300 digits) for integer string conversion; " ++
      "use sys.set_int_max_str_digits() to increase the limit"
  | .optionsNotMapping t => "'" ++ t ++ "' object is not a mapping"
  | .templateNotText t =>
    "template must be a template string or registered template name, got " ++ t
  | .noAttribute t a => "'" ++ t ++ "' object has no attribute '" ++ a ++ "'"
  | .bytesNotText => "cannot use a string pattern on a bytes-like object"
  | .unhashable t => "unhashable type: '" ++ t ++ "'"
  | .notIterable t => "'" ++ t ++ "' object is not iterable"
  | .notCallable t => "'" ++ t ++ "' object is not callable"
  | .noTokens => "not enough values to unpack (expected at least 1, got 0)"
  | .raised _ m => m

end Fault

/-- The result of a computation that may fail. -/
abbrev Outcome (α : Type) := Except Fault α

end Stencil
