import Stencil.Render.Evaluate
import Stencil.Template.Node

set_option autoImplicit false

/-! # The course of a render

Which nodes of a template are rendered, in which scopes, in the order of the page: the body of a
conditional block if its condition is met, that of a loop once for each item. Each visit calls at
most one function, and shows at most one value. -/

namespace Stencil

/-- A node and the scope that it is rendered in. -/
structure Visit where
  node : Node
  scope : Scope

/-- A function that was called, and what it gave. -/
structure Call where
  kind : FunctionKind
  name : String
  result : Outcome Value

/-- The notice of a call that failed. -/
def Call.failure? (c : Call) : Option Notice :=
  match c.kind, c.result with
  | _, .ok _ => none
  | .helper, .error fault => some (.helperFailed c.name fault)
  | .component, .error fault => some (.componentFailed c.name fault)

variable [Attributes]

namespace Functions

/-- The value of an expression, nothing if it has none. -/
def valueOf (f : Functions) (scope : Scope) (expression : List Char) : Value :=
  match (f.evaluate scope expression).outcome with
  | .ok v => v
  | .error _ => .null

/-- The call of a helper that gives the value of an expression, if it calls a registered one. -/
def helperCall? (f : Functions) (scope : Scope) (expression : List Char) : Option Call :=
  match Expression.read expression with
  | .call helper arguments => do
    let run ← f.helpers.get? (String.ofList helper)
    return ⟨.helper, String.ofList helper,
      run (arguments.map (Argument.evaluate scope.value)) scope⟩
  | _ => none

/-- The call of a component, if it is registered. -/
def componentCall? (f : Functions) (scope : Scope) (name : String) (arguments : List Char) :
    Option Call := do
  let run ← f.components.get? name
  return ⟨.component, name, run f.helpers (Argument.keywordValues scope.value arguments) scope⟩

end Functions

namespace Visit

/-- The text that a node puts into a page itself. Blocks leave that to the nodes in them. -/
def render (f : Functions) (v : Visit) : Traced String :=
  match v.node with
  | .text s => pure s
  | .variable e _ => f.interpolate v.scope e.toList
  | .component name arguments _ => f.expand v.scope name arguments.toList
  | .block .conditional subject _ _ => do
    let _ ← f.decides v.scope subject.toList
    return ""
  | .block .loop _ _ _ => pure ""

/-- The call that a node makes itself, if it makes one. -/
def call? (f : Functions) (v : Visit) : Option Call :=
  match v.node with
  | .variable e _ => f.helperCall? v.scope e.toList
  | .component name arguments _ => f.componentCall? v.scope name arguments.toList
  | .block .conditional subject _ _ => f.helperCall? v.scope subject.toList
  | _ => none

/-- The value that a node shows on the page, if it shows one: that of a variable, or the result of a
    component that gave one. -/
def shown? (f : Functions) (v : Visit) : Option Value :=
  match v.node with
  | .variable e _ => some (f.valueOf v.scope e.toList)
  | .component name arguments _ => do
    let call ← f.componentCall? v.scope name arguments.toList
    call.result.toOption
  | _ => none

end Visit

namespace Template

mutual

/-- The visits to a node and the nodes in it. -/
def courseOf (f : Functions) : Node → Scope → List Visit
  | .text s, scope => [⟨.text s, scope⟩]
  | .variable e line, scope => [⟨.variable e line, scope⟩]
  | .component name arguments line, scope => [⟨.component name arguments line, scope⟩]
  | .block .conditional subject line body, scope =>
    ⟨.block .conditional subject line body, scope⟩ ::
      if (f.valueOf scope subject.toList).isTruthy then course f body scope else []
  | .block .loop subject line body, scope =>
    let items := scope.loopItems subject.toList
    ⟨.block .loop subject line body, scope⟩ ::
      items.zipIdx.flatMap fun (item, i) => course f body (scope.atItem item i items.length)

/-- The visits to nodes and the nodes in them, in the order of the page. -/
def course (f : Functions) : List Node → Scope → List Visit
  | [], _ => []
  | n :: ns, scope => courseOf f n scope ++ course f ns scope

end

/-- The calls of helpers and components that rendering makes, in the order of the page. -/
def calls (f : Functions) (nodes : Template) (scope : Scope) : List Call :=
  (course f nodes scope).filterMap (Visit.call? f)

/-- The values that a page shows, in its order. -/
def shownValues (f : Functions) (nodes : Template) (scope : Scope) : List Value :=
  (course f nodes scope).filterMap (Visit.shown? f)

end Template

end Stencil
