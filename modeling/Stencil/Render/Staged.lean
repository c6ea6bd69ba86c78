import Stencil.Render.Evaluate
import Stencil.Template.Node

set_option autoImplicit false

/-! # Rendering in stages

The nodes of a template are rendered in four stages: first all conditional blocks, then all loops,
then interpolations, then components. A stage fills the gaps of its own kind of node and leaves the
others open, and the body of a block goes through all four stages by itself. The order of the
stages shows only in what is told on the way, since the filled texts are put together in the order
of the nodes. -/

namespace Stencil

/-- The stages, named for what they fill. -/
inductive Stage where
  | conditionals
  | loops
  | interpolations
  | components
  deriving DecidableEq, Repr

/-- The texts of some nodes, where they are filled. -/
abbrev Filling := List (Option String)

namespace Filling

/-- The texts of the text nodes. -/
def ofTexts (nodes : Template) : Filling :=
  nodes.map Node.text?

/-- What either of two fillings fills. -/
def or (a b : Filling) : Filling :=
  List.zipWith Option.or a b

/-- The filled texts, one after the other. -/
def concat (a : Filling) : String :=
  String.join (a.map (·.getD ""))

end Filling

namespace Template

variable [Attributes]

mutual

/-- What a stage fills a node with. -/
def fillNode (f : Functions) (stage : Stage) : Node → Scope → Traced (Option String)
  | .text _, _ => pure none
  | .variable e _, scope =>
    if stage = .interpolations then some <$> f.interpolate scope e.toList else pure none
  | .component name arguments _, scope =>
    if stage = .components then some <$> f.expand scope name arguments.toList else pure none
  | .block .conditional subject _ body, scope =>
    if stage = .conditionals then do
      if ← f.decides scope subject.toList then
        let a ← fill f .conditionals body scope
        let b ← fill f .loops body scope
        let c ← fill f .interpolations body scope
        let d ← fill f .components body scope
        return some ((Filling.ofTexts body).or a |>.or b |>.or c |>.or d |>.concat)
      else return some ""
    else pure none
  | .block .loop subject _ body, scope =>
    if stage = .loops then do
      let items := scope.loopItems subject.toList
      let inside (i : Nat) (item : Value) : Traced String := do
        let s := scope.atItem item i items.length
        let a ← fill f .conditionals body s
        let b ← fill f .loops body s
        let c ← fill f .interpolations body s
        let d ← fill f .components body s
        return (Filling.ofTexts body).or a |>.or b |>.or c |>.or d |>.concat
      some <$> forItems inside 0 items
    else pure none

/-- What a stage fills nodes with. -/
def fill (f : Functions) (stage : Stage) : List Node → Scope → Traced Filling
  | [], _ => pure []
  | n :: ns, scope => do
    let s ← fillNode f stage n scope
    let rest ← fill f stage ns scope
    return s :: rest

end

/-- The text of a template. -/
def render (f : Functions) (nodes : Template) (scope : Scope) : Traced String := do
  let a ← fill f .conditionals nodes scope
  let b ← fill f .loops nodes scope
  let c ← fill f .interpolations nodes scope
  let d ← fill f .components nodes scope
  return (Filling.ofTexts nodes).or a |>.or b |>.or c |>.or d |>.concat

/-- A conditional block is filled with the text of its body, if its condition is met. -/
theorem fillNode_conditional (f : Functions) (subject : String) (line : Nat) (body : Template)
    (scope : Scope) :
    fillNode f .conditionals (.block .conditional subject line body) scope = do
      if ← f.decides scope subject.toList then some <$> render f body scope
      else return some "" := by
  simp only [fillNode, render, ite_true, map_bind]
  rfl

/-- A loop is filled with the text of its body for each item. -/
theorem fillNode_loop (f : Functions) (subject : String) (line : Nat) (body : Template)
    (scope : Scope) :
    fillNode f .loops (.block .loop subject line body) scope =
      some <$> forItems
        (fun i item =>
          render f body (scope.atItem item i (scope.loopItems subject.toList).length))
        0 (scope.loopItems subject.toList) := by
  simp only [fillNode, render, ite_true]

end Template

end Stencil
