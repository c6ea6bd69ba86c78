import Stencil.Render.Evaluate
import Stencil.Template.Node

set_option autoImplicit false

/-! # Rendering in order

The text of a template, node by node in the order of the page. It is the plain meaning of a
template, to which rendering in stages is compared, so it says by itself what each node stands for:
a variable for its value, escaped; a component for its result as it is; a conditional block for its
body, if its condition is met; a loop for its body once for each item. -/

namespace Stencil.Template

variable [Attributes]

mutual

/-- The text of a node. -/
def renderNodeInOrder (f : Functions) : Node → Scope → Traced String
  | .text s, _ => pure s
  | .variable e _, scope => do
    let v ← f.evaluate scope e.toList
    let shown ← .ofOutcome v.display
    return Html.escape shown
  | .component name arguments _, scope =>
    match f.components.get? name with
    | none => ⟨[.unknownComponent name], .ok ""⟩
    | some run =>
      match run f.helpers (Argument.keywordValues scope.value arguments.toList) scope with
      | .ok v => .ofOutcome v.display
      | .error fault => ⟨[.componentFailed name fault], .ok ""⟩
  | .block .conditional subject _ body, scope => do
    let v ← f.evaluate scope subject.toList
    if v.isTruthy then renderInOrder f body scope else return ""
  | .block .loop subject _ body, scope => do
    let items := ((Path.resolve subject.toList scope.value).items?).getD []
    let texts ← items.zipIdx.mapM fun (item, i) =>
      renderInOrder f body (scope.atItem item i items.length)
    return String.join texts

/-- The texts of nodes, one after the other. -/
def renderInOrder (f : Functions) : List Node → Scope → Traced String
  | [], _ => pure ""
  | n :: ns, scope => do
    let s ← renderNodeInOrder f n scope
    let rest ← renderInOrder f ns scope
    return s ++ rest

end

/-! ## The same with the functions that evaluate tags -/

variable (f : Functions) (subject : String) (line : Nat) (body : Template) (scope : Scope)

theorem renderNodeInOrder_variable (e : String) :
    renderNodeInOrder f (.variable e line) scope = f.interpolate scope e.toList := by
  rw [renderNodeInOrder, Functions.interpolate]

theorem renderNodeInOrder_component (name arguments : String) :
    renderNodeInOrder f (.component name arguments line) scope
      = f.expand scope name arguments.toList := by
  rw [renderNodeInOrder, Functions.expand]
  rfl

theorem renderNodeInOrder_conditional :
    renderNodeInOrder f (.block .conditional subject line body) scope = do
      if ← f.decides scope subject.toList then renderInOrder f body scope else return "" := by
  simp only [renderNodeInOrder, Functions.decides, bind_assoc, pure_bind]

theorem renderNodeInOrder_loop :
    renderNodeInOrder f (.block .loop subject line body) scope
      = forItems
          (fun i item =>
            renderInOrder f body (scope.atItem item i (scope.loopItems subject.toList).length))
          0 (scope.loopItems subject.toList) := by
  rw [renderNodeInOrder, forItems_eq_join, map_eq_pure_bind]
  rfl

end Stencil.Template
