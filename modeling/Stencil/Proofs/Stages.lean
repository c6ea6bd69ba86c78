import Stencil.Proofs.Passes
import Stencil.Render.InOrder

set_option autoImplicit false

/-! # Rendering in stages is rendering in order

`render` goes through a list of nodes once for each stage, and through the body of a block in the
same way. This file proves that nothing of it shows but the order of the notices:
`render_inOrder` says that the page is the one of `renderInOrder`, with the same notices in another
order, and which order that is.

The proof takes the first node out of all four stages (`render_cons_agrees`): filling it is one step,
and that step changes places with the stages before its own. -/

namespace Stencil

open Telling

namespace Template

/-- The nodes that a stage fills. -/
def ofStage (stage : Stage) (nodes : Template) : Template :=
  nodes.filter (·.stage? = some stage)

theorem ofStage_cons (stage : Stage) (n : Node) (ns : Template) :
    ofStage stage (n :: ns)
      = if n.stage? = some stage then n :: ofStage stage ns else ofStage stage ns := by
  simp only [ofStage, List.filter_cons, decide_eq_true_eq]

/-- The nodes in the order in which the stages fill them. -/
def inStages (nodes : Template) : Template :=
  Stage.all.flatMap (ofStage · nodes)

variable (f : Functions) (scope : Scope)

/-! ## One node in front of others -/

theorem forItems_agrees {text text' : Nat → Value → Traced String}
    (h : ∀ i item, Agrees (text i item) (text' i item)) (items : List Value) :
    ∀ i, Agrees (forItems text i items) (forItems text' i items) := by
  induction items with
  | nil => exact fun i => .refl _
  | cons item items ih =>
      intro i
      exact (h i item).bind fun s => (ih (i + 1)).bind fun rest => .refl _

variable [Attributes]

/-- What a stage fills the first node with comes before what it fills the others with. -/
theorem render_cons (n : Node) (ns : Template) :
    render f (n :: ns) scope = do
      let first (stage : Stage) : Traced (Option String) :=
        if n.stage? = some stage then some <$> renderNode f n scope else pure none
      let a ← first .conditionals
      let as ← fill f .conditionals ns scope
      let b ← first .loops
      let bs ← fill f .loops ns scope
      let c ← first .interpolations
      let cs ← fill f .interpolations ns scope
      let d ← first .components
      let ds ← fill f .components ns scope
      return (n.text?.or a |>.or b |>.or c |>.or d).getD "" ++
        ((Filling.ofTexts ns).or as |>.or bs |>.or cs |>.or ds).concat := by
  simp only [render, fill_cons, bind_assoc, pure_bind, Filling.ofTexts_cons, Filling.or_cons,
    Filling.concat_cons]

/-- The first node can be filled before all others, whatever its stage is. -/
theorem render_cons_agrees (n : Node) (ns : Template) :
    Agrees (render f (n :: ns) scope)
      (do let s ← renderNode f n scope; let rest ← render f ns scope; return s ++ rest) := by
  rw [render_cons]
  cases h : n.stage? with
  | none =>
      obtain ⟨s, rfl⟩ := Node.eq_text_of_stage?_eq_none h
      refine .of_eq ?_
      simp only [render, reduceCtorEq, ite_false, bind_assoc, pure_bind, renderNode, Node.text?,
        Option.or_none, Option.getD_some]
  | some stage =>
      have ht : n.text? = none := Node.text?_eq_none_of_stage? h
      cases stage <;>
        simp only [render, ht, bind_assoc, pure_bind, map_eq_pure_bind, ite_true, ite_false,
          reduceCtorEq, Option.some.injEq, Option.none_or, Option.or_none, Option.getD_some]
      -- The step that fills the node comes after the stages before its own: as many swaps.
      case conditionals => exact .refl _
      case loops => exact agrees_swap _ _ _
      case interpolations =>
        refine .trans (.bind_right _ fun a => ?_) (agrees_swap _ _ _)
        exact agrees_swap _ _ _
      case components =>
        refine .trans (.bind_right _ fun a => ?_) (agrees_swap _ _ _)
        refine .trans (.bind_right _ fun b => ?_) (agrees_swap _ _ _)
        exact agrees_swap _ _ _

/-- Rendering a list of one node gives the text of that node. -/
theorem render_singleton (n : Node) : render f [n] scope = renderNode f n scope := by
  have hempty (stage : Stage) : fill f stage [] scope = pure [] := by rw [fill]
  cases h : n.stage? with
  | none =>
      obtain ⟨s, rfl⟩ := Node.eq_text_of_stage?_eq_none h
      rfl
  | some stage =>
      have ht : n.text? = none := Node.text?_eq_none_of_stage? h
      rw [render_cons]
      cases stage <;>
        simp only [hempty, h, ht, bind_assoc, pure_bind, map_eq_pure_bind, ite_true, ite_false,
          reduceCtorEq, Option.some.injEq, Filling.ofTexts_nil, Filling.or_nil, Filling.concat_nil,
          Option.none_or, Option.or_none, Option.getD_some, String.append_empty, bind_pure]

/-- The text of nodes is that of each node by itself, one after the other. -/
theorem render_agrees_mapM (nodes : Template) :
    Agrees (render f nodes scope) (String.join <$> nodes.mapM (renderNode f · scope)) := by
  induction nodes with
  | nil => exact .refl _
  | cons n ns ih =>
      refine (render_cons_agrees f scope n ns).trans ?_
      simp only [List.mapM_cons, map_bind, map_pure, String.join_cons]
      refine .bind_right _ fun s => ?_
      simpa only [map_eq_pure_bind, bind_assoc, pure_bind] using ih.bind fun rest => .refl _

/-! ## All nodes in order -/

mutual

theorem renderNode_agrees_inOrder (f : Functions) :
    ∀ (n : Node) (scope : Scope), Agrees (renderNode f n scope) (renderNodeInOrder f n scope)
  | .text s, scope => .of_eq (by rw [renderNode, renderNodeInOrder])
  | .variable e line, scope => .of_eq (by rw [renderNode, renderNodeInOrder_variable])
  | .component name arguments line, scope =>
      .of_eq (by rw [renderNode, renderNodeInOrder_component])
  | .block .conditional subject line body, scope => by
      rw [renderNode, renderNodeInOrder_conditional]
      refine .bind_right _ fun met => ?_
      cases met with
      | false => exact .refl _
      | true => exact render_agrees_inOrder f body scope
  | .block .loop subject line body, scope => by
      rw [renderNode, renderNodeInOrder_loop]
      exact forItems_agrees (fun i item => render_agrees_inOrder f body _) _ 0

theorem render_agrees_inOrder (f : Functions) :
    ∀ (nodes : List Node) (scope : Scope), Agrees (render f nodes scope) (renderInOrder f nodes scope)
  | [], scope => .of_eq (by rw [renderInOrder]; rfl)
  | n :: ns, scope => by
      refine (render_cons_agrees f scope n ns).trans ?_
      rw [renderInOrder]
      exact (renderNode_agrees_inOrder f n scope).bind fun s =>
        (render_agrees_inOrder f ns scope).bind fun rest => .refl _

end

/-! ## The order of the notices -/

theorem effect_fill (stage : Stage) (nodes : Template) :
    (fill f stage nodes scope).effect
      = ((ofStage stage nodes).mapM (renderNode f · scope)).effect := by
  induction nodes with
  | nil => rw [fill]; rfl
  | cons n ns ih =>
      have hrest (x : Option String) :
          (do let rest ← fill f stage ns scope; return x :: rest : Traced Filling).effect
            = (fill f stage ns scope).effect := by
        rw [← map_eq_pure_bind, effect_map]
      rw [fill_cons, effect_bind _ hrest, ih, ofStage_cons]
      by_cases h : n.stage? = some stage
      · rw [if_pos h, if_pos h, effect_map, effect_mapM_cons]
      · rw [if_neg h, if_neg h, effect_pure, pure_bind]

/-- Rendering tells what the nodes tell one after the other, stage by stage, and ends at the first
    of them that fails. -/
theorem effect_render (nodes : Template) :
    (render f nodes scope).effect
      = ((inStages nodes).mapM (renderNode f · scope)).effect := by
  simp only [inStages, Stage.all, List.flatMap_cons, List.flatMap_nil, effect_mapM_append,
    ← effect_fill]
  rw [render]
  refine effect_bind _ fun a => effect_bind _ fun b => effect_bind _ fun c => ?_
  exact effect_bind _ fun d => rfl

/-! ## The page -/

/-- **Rendering in stages is rendering in order.** Going through the parts four times, where no pass
    touches what another one has filled in, gives the texts of the nodes, each rendered by itself,
    in the order of the nodes, at every depth. The notices are the same, but they come stage by
    stage: in each list of nodes those of all conditional blocks, then those of loops, of variables
    and of components. A page that cannot be rendered fails at the first node that fails in this
    order. -/
theorem render_inOrder (nodes : Template) :
    render f nodes scope = renderParts f nodes scope ∧
    Agrees (render f nodes scope) (renderInOrder f nodes scope) ∧
    Agrees (render f nodes scope) (String.join <$> nodes.mapM fun n => render f [n] scope) ∧
    (render f nodes scope).effect
      = ((inStages nodes).mapM fun n => render f [n] scope).effect := by
  simp only [render_singleton]
  exact ⟨render_eq_renderParts f scope nodes, render_agrees_inOrder f nodes scope,
    render_agrees_mapM f scope nodes, effect_render f scope nodes⟩

end Template

end Stencil
