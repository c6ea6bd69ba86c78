import Stencil.Expression.Tokens
import Stencil.Value.Number
import Stencil.Value.Path

set_option autoImplicit false

/-! # Arguments and expressions

An argument is a quoted text, a numeral, a truth value or else a path. An expression without blanks
is a path; with blanks it calls a helper. Rendering and the checks of a template all go by this one
reading. -/

namespace Stencil

/-- An argument of a call. -/
inductive Argument where
  | text (cs : List Char)
  | number (n : Numeral)
  | truth (b : Bool)
  | path (cs : List Char)

namespace Argument

/-- The text between the quotes of a token that stands in quotes of one kind. -/
def unquoted? : List Char → Option (List Char)
  | [] => none
  | q :: cs => if Expression.isQuote q && cs.getLast? = some q then some cs.dropLast else none

/-- What a token is. -/
def read (token : List Char) : Argument :=
  match unquoted? token with
  | some cs => .text cs
  | none =>
    match Numeral.readToken? token with
    | some n => .number n
    | none =>
      if token = ['t', 'r', 'u', 'e'] then .truth true
      else if token = ['f', 'a', 'l', 's', 'e'] then .truth false
      else .path token

/-- Whether a token is a path. -/
def isPath (token : List Char) : Bool :=
  match read token with
  | .path _ => true
  | _ => false

variable [Attributes]

/-- The value of an argument, where paths are looked up in `scope`. -/
def value (scope : Value) : Argument → Value
  | .text cs => .str (String.ofList cs)
  | .number n => n.value
  | .truth b => .bool b
  | .path cs => Path.resolve cs scope

/-- A token that is no path has the same value everywhere. -/
theorem value_eq_of_not_isPath {token : List Char} (h : isPath token = false) (s t : Value) :
    (read token).value s = (read token).value t := by
  unfold isPath at h
  split at h
  · cases h
  · rename_i hp
    cases hr : read token with
    | path cs => exact absurd hr (hp cs)
    | _ => rfl

/-- The value of a token, where paths are looked up in `scope`. -/
def evaluate (scope : Value) (token : List Char) : Value :=
  (read token).value scope

/-- The keyword arguments in a text, from left to right. A key that is repeated keeps its first
    place and takes its last value. -/
def keywordValues (scope : Value) (text : List Char) : Entries :=
  Entries.update [] ((Expression.keywords text).map fun k =>
    (.str (String.ofList k.1), evaluate scope k.2))

end Argument

/-- What stands in a variable tag or a condition. -/
inductive Expression where
  | path (cs : List Char)
  | call (helper : List Char) (arguments : List (List Char))
  /-- Blanks only. -/
  | blank

namespace Expression

/-- What an expression is. -/
def read (cs : List Char) : Expression :=
  if cs.any Text.isBlank then
    match tokens cs with
    | [] => .blank
    | helper :: arguments => .call helper arguments
  else .path cs

/-- The paths that an expression looks up. -/
def paths : Expression → List (List Char)
  | .path cs => [cs]
  | .call _ arguments => arguments.filter Argument.isPath
  | .blank => []

end Expression

end Stencil
