import Stencil.Expression.Argument
import Stencil.Helper.Basic
import Stencil.Html.Escape
import Stencil.Render.Notice
import Stencil.Value.Text

set_option autoImplicit false

/-! # Values of tags

What an expression and a component tag stand for in a scope. Names that are not registered and
functions that fail are told and stand for nothing, so that one bad tag does not cost the page. -/

namespace Stencil

/-- The functions that templates can call. -/
structure Functions where
  helpers : Registry Helper
  components : Registry Component

/-- The texts of the items of a loop one after the other, where the first item has place `i`. -/
def forItems (text : Nat → Value → Traced String) : Nat → List Value → Traced String
  | _, [] => pure ""
  | i, item :: items => do
    let s ← text i item
    let rest ← forItems text (i + 1) items
    return s ++ rest

/-- The texts of items one after the other are the texts of the items with their places, joined. -/
theorem forItems_eq_join (text : Nat → Value → Traced String) (items : List Value) :
    ∀ i, forItems text i items
      = String.join <$> (items.zipIdx i).mapM fun (item, i) => text i item := by
  induction items with
  | nil => exact fun i => rfl
  | cons item items ih =>
      intro i
      simp only [forItems, ih, List.zipIdx_cons, List.mapM_cons, map_eq_pure_bind, bind_assoc,
        pure_bind, String.join_cons]

variable [Attributes]

namespace Functions

/-- The value of an expression. -/
def evaluate (f : Functions) (scope : Scope) (expression : List Char) : Traced Value :=
  match Expression.read expression with
  | .path cs => pure (Path.resolve cs scope.value)
  | .blank => .fail .noTokens
  | .call helper arguments =>
    let name := String.ofList helper
    match f.helpers.get? name with
    | none => do
      Telling.tell (.unknownHelper name)
      return .null
    | some run =>
      match run (arguments.map (Argument.evaluate scope.value)) scope with
      | .ok v => pure v
      | .error fault => do
        Telling.tell (.helperFailed name fault)
        return .null

/-- The text of a variable tag: the value of its expression as a page shows it, escaped. -/
def interpolate (f : Functions) (scope : Scope) (expression : List Char) : Traced String := do
  let v ← f.evaluate scope expression
  let s ← .ofOutcome v.display
  return Html.escape s

/-- The text of a component tag: the result of the component as a page shows it, not escaped. -/
def expand (f : Functions) (scope : Scope) (name : String) (arguments : List Char) :
    Traced String :=
  match f.components.get? name with
  | none => do
    Telling.tell (.unknownComponent name)
    return ""
  | some run =>
    match run f.helpers (Argument.keywordValues scope.value arguments) scope with
    | .ok v => .ofOutcome v.display
    | .error fault => do
      Telling.tell (.componentFailed name fault)
      return ""

/-- Whether the condition of a block is met. -/
def decides (f : Functions) (scope : Scope) (expression : List Char) : Traced Bool := do
  let v ← f.evaluate scope expression
  return v.isTruthy

end Functions

/-- The items that a loop over a path goes through; anything but a list has none. -/
def Scope.loopItems (scope : Scope) (path : List Char) : List Value :=
  ((Path.resolve path scope.value).items?).getD []

end Stencil
