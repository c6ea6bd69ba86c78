import Mathlib.Data.List.Forall2
import Stencil.Proofs.Agreement
import Stencil.Render.Staged

set_option autoImplicit false

/-! # Four passes over the parts

Rendering goes through a list of parts four times, once for each stage, and replaces the nodes of
that stage by their texts. `renderParts` is written that way, while `render` keeps the nodes and
collects in a `Filling` what each stage fills in. `render_eq_renderParts` says that both are the
same computation. -/

namespace Stencil

open Telling

/-! ## The stage of a node -/

namespace Node

/-- The stage that fills a node; text needs none. -/
def stage? : Node → Option Stage
  | .text _ => none
  | .variable _ _ => some .interpolations
  | .component _ _ _ => some .components
  | .block .conditional _ _ _ => some .conditionals
  | .block .loop _ _ _ => some .loops

theorem eq_text_of_stage?_eq_none {n : Node} (h : n.stage? = none) : ∃ s, n = .text s := by
  rcases n with s | _ | _ | ⟨_ | _, _, _, _⟩
  · exact ⟨s, rfl⟩
  all_goals cases h

theorem text?_eq_none_of_stage? {n : Node} {stage : Stage} (h : n.stage? = some stage) :
    n.text? = none := by
  rcases n with s | _ | _ | _
  · cases h
  all_goals rfl

end Node

namespace Filling

@[simp] theorem ofTexts_nil : ofTexts [] = [] := rfl

@[simp] theorem ofTexts_cons (n : Node) (ns : Template) :
    ofTexts (n :: ns) = n.text? :: ofTexts ns := rfl

@[simp] theorem or_nil : or [] [] = [] := rfl

@[simp] theorem or_cons (x y : Option String) (a b : Filling) :
    or (x :: a) (y :: b) = x.or y :: or a b := rfl

@[simp] theorem concat_nil : concat [] = "" := rfl

@[simp] theorem concat_cons (x : Option String) (a : Filling) :
    concat (x :: a) = x.getD "" ++ concat a := by
  rw [concat, List.map_cons, String.join_cons, concat]

end Filling

/-- The stages, first to last. -/
def Stage.all : List Stage :=
  [.conditionals, .loops, .interpolations, .components]

namespace Template

/-! ## One node by itself -/

variable [Attributes]

/-- The text of a node by itself, where the body of a block is rendered in stages. -/
def renderNode (f : Functions) : Node → Scope → Traced String
  | .text s, _ => pure s
  | .variable e _, scope => f.interpolate scope e.toList
  | .component name arguments _, scope => f.expand scope name arguments.toList
  | .block .conditional subject _ body, scope => do
    if ← f.decides scope subject.toList then render f body scope else return ""
  | .block .loop subject _ body, scope =>
    let items := scope.loopItems subject.toList
    forItems (fun i item => render f body (scope.atItem item i items.length)) 0 items

variable (f : Functions) (scope : Scope)

/-- A stage fills the nodes of its own kind with their texts and leaves the others open. -/
theorem fillNode_eq (stage : Stage) (n : Node) :
    fillNode f stage n scope
      = if n.stage? = some stage then some <$> renderNode f n scope else pure none := by
  rcases n with s | ⟨e, line⟩ | ⟨name, arguments, line⟩ | ⟨kind, subject, line, body⟩
  · simp [fillNode, Node.stage?]
  · cases stage <;> simp [fillNode, Node.stage?, renderNode]
  · cases stage <;> simp [fillNode, Node.stage?, renderNode]
  · cases kind with
    | conditional =>
        cases stage with
        | conditionals =>
            rw [fillNode_conditional]
            simp only [Node.stage?, renderNode, ite_true, map_bind]
            refine bind_congr fun met => ?_
            cases met <;> rfl
        | loops | interpolations | components => simp [fillNode, Node.stage?]
    | loop =>
        cases stage with
        | loops => rw [fillNode_loop]; simp only [Node.stage?, renderNode, ite_true]
        | conditionals | interpolations | components => simp [fillNode, Node.stage?]

/-- A stage goes through the nodes from left to right. -/
theorem fill_cons (stage : Stage) (n : Node) (ns : Template) :
    fill f stage (n :: ns) scope = do
      let x ← (if n.stage? = some stage then some <$> renderNode f n scope else pure none)
      let rest ← fill f stage ns scope
      return x :: rest := by
  rw [fill, fillNode_eq]

end Template

/-! ## Parts -/

/-- What the stages go through: a node that waits for its stage, or the text that a node has been
    replaced by. -/
inductive Part where
  | node (n : Node)
  | filled (s : String)

namespace Part

/-- The text of a part in the end. -/
def text : Part → String
  | .node n => n.text?.getD ""
  | .filled s => s

/-- What a stage makes of a part. It replaces the nodes of its own kind and leaves all else. -/
def afterStage [Attributes] (f : Functions) (scope : Scope) (stage : Stage) : Part → Traced Part
  | .node n =>
    if n.stage? = some stage then .filled <$> Template.renderNode f n scope else pure (.node n)
  | .filled s => pure (.filled s)

/-- The part for a node that has been filled or not; a text stays as it is. -/
def ofFilled (n : Node) : Option String → Part
  | none => .node n
  | some s => if n.stage? = none then .node n else .filled s

theorem ofFilled_of_text {n : Node} (h : n.stage? = none) (x : Option String) :
    ofFilled n x = .node n := by
  cases x with
  | none => rfl
  | some s => rw [ofFilled, if_pos h]

theorem ofFilled_some {n : Node} {stage : Stage} (h : n.stage? = some stage) (s : String) :
    ofFilled n (some s) = .filled s := by
  rw [ofFilled, if_neg (by simp [h])]

/-- A stage leaves a part alone that is not for a node of its own kind. -/
theorem afterStage_ofFilled [Attributes] (f : Functions) (scope : Scope) {n : Node} {stage : Stage}
    (h : n.stage? ≠ some stage) (x : Option String) :
    afterStage f scope stage (ofFilled n x) = pure (ofFilled n x) := by
  have hnode : afterStage f scope stage (.node n) = pure (.node n) := by
    rw [afterStage, if_neg h]
  cases x with
  | none => exact hnode
  | some s =>
      rw [ofFilled]
      split
      · exact hnode
      · rfl

end Part

/-- After some stages, the nodes of these stages may be filled; a text has been from the start. -/
def FilledBy (done : List Stage) (n : Node) (x : Option String) : Prop :=
  match n.stage? with
  | none => x = n.text?
  | some stage => x = none ∨ stage ∈ done

namespace Template

/-! ## Passes -/

/-- The text of nodes, made by going through all parts in each stage. -/
def renderParts [Attributes] (f : Functions) (nodes : Template) (scope : Scope) :
    Traced String := do
  let pass (parts : List Part) (stage : Stage) : Traced (List Part) :=
    parts.mapM (Part.afterStage f scope stage)
  let parts ← Stage.all.foldlM pass (nodes.map .node)
  return String.join (parts.map Part.text)

variable (f : Functions) (scope : Scope)

theorem filledBy_ofTexts (nodes : Template) :
    List.Forall₂ (FilledBy []) nodes (Filling.ofTexts nodes) := by
  induction nodes with
  | nil => exact .nil
  | cons n ns ih =>
      refine .cons ?_ ih
      rw [FilledBy]
      cases h : n.stage? with
      | none => rfl
      | some stage => exact Or.inl (Node.text?_eq_none_of_stage? h)

/-- No node is filled at first but the texts. -/
theorem parts_ofTexts (nodes : Template) :
    List.zipWith Part.ofFilled nodes (Filling.ofTexts nodes) = nodes.map .node := by
  induction nodes with
  | nil => rfl
  | cons n ns ih =>
      have hn : Part.ofFilled n n.text? = .node n := by
        cases h : n.stage? with
        | none => exact Part.ofFilled_of_text h _
        | some stage => rw [Node.text?_eq_none_of_stage? h, Part.ofFilled]
      rw [Filling.ofTexts_cons, List.zipWith_cons_cons, List.map_cons, hn, ih]

/-- In the end the parts have the texts that have been filled in. -/
theorem join_parts {done : List Stage} {nodes : Template} {a : Filling}
    (h : List.Forall₂ (FilledBy done) nodes a) :
    String.join ((List.zipWith Part.ofFilled nodes a).map Part.text) = a.concat := by
  induction h with
  | nil => rfl
  | @cons n x ns a hx _ ih =>
      have hn : (Part.ofFilled n x).text = x.getD "" := by
        cases h : n.stage? with
        | none =>
            rw [FilledBy, h] at hx
            rw [Part.ofFilled_of_text h, hx, Part.text]
        | some stage =>
            cases x with
            | none => rw [Part.ofFilled, Part.text, Node.text?_eq_none_of_stage? h]
            | some s => rw [Part.ofFilled_some h, Part.text, Option.getD_some]
      rw [List.zipWith_cons_cons, List.map_cons, String.join_cons, ih, hn, Filling.concat_cons]

variable [Attributes]

/-- A stage goes through the parts as it fills the nodes that they stand for. -/
theorem mapM_afterStage {done : List Stage} {stage : Stage} (hs : stage ∉ done)
    {nodes : Template} {a : Filling} (h : List.Forall₂ (FilledBy done) nodes a) :
    (List.zipWith Part.ofFilled nodes a).mapM (Part.afterStage f scope stage)
      = (fun b => List.zipWith Part.ofFilled nodes (a.or b)) <$> fill f stage nodes scope := by
  induction h with
  | nil => rw [fill]; rfl
  | @cons n x ns a hx _ ih =>
      rw [List.zipWith_cons_cons, List.mapM_cons, ih, fill_cons]
      by_cases hn : n.stage? = some stage
      · -- The stage has not been gone through, so the node still waits for it.
        rw [FilledBy, hn] at hx
        obtain rfl : x = none := hx.resolve_right hs
        rw [Part.ofFilled, Part.afterStage, if_pos hn, if_pos hn]
        simp only [map_eq_pure_bind, bind_assoc, pure_bind, Filling.or_cons, Option.none_or,
          List.zipWith_cons_cons, Part.ofFilled_some hn]
      · rw [Part.afterStage_ofFilled f scope hn, if_neg hn]
        simp only [map_eq_pure_bind, bind_assoc, pure_bind, Filling.or_cons, Option.or_none,
          List.zipWith_cons_cons]

/-- A stage fills nodes of its own kind only. -/
theorem filledBy_or {done : List Stage} {stage : Stage} {nodes : Template}
    {a : Filling} (h : List.Forall₂ (FilledBy done) nodes a) : ∀ {b : Filling},
      (fill f stage nodes scope).outcome = .ok b →
        List.Forall₂ (FilledBy (stage :: done)) nodes (a.or b) := by
  induction h with
  | nil =>
      intro b hb
      rw [fill] at hb
      cases hb
      exact .nil
  | @cons n x ns a hx _ ih =>
      intro b hb
      rw [fill_cons] at hb
      obtain ⟨y, hy, hb⟩ := bind_outcome_ok.1 hb
      obtain ⟨b, hrest, hb⟩ := bind_outcome_ok.1 hb
      cases hb
      refine .cons ?_ (ih hrest)
      rw [FilledBy] at hx ⊢
      by_cases hn : n.stage? = some stage
      · rw [hn]
        exact Or.inr (List.mem_cons_self ..)
      · rw [if_neg hn] at hy
        cases hy
        rw [Option.or_none]
        cases h : n.stage? with
        | none =>
            rw [h] at hx
            exact hx
        | some other =>
            rw [h] at hx
            exact hx.imp_right (List.mem_cons_of_mem _)

/-- Stages that are all different make of the parts what they fill in. -/
theorem foldlM_afterStage {nodes : Template} {stages : List Stage} :
    ∀ {done : List Stage} {a : Filling}, stages.Nodup → (∀ stage ∈ stages, stage ∉ done) →
      List.Forall₂ (FilledBy done) nodes a →
        (do
          let parts ← stages.foldlM (fun parts stage => parts.mapM (Part.afterStage f scope stage))
            (List.zipWith Part.ofFilled nodes a)
          return String.join (parts.map Part.text))
        = Filling.concat <$> stages.foldlM (fun a stage => a.or <$> fill f stage nodes scope) a := by
  induction stages with
  | nil =>
      intro done a _ _ h
      rw [List.foldlM_nil, List.foldlM_nil, pure_bind, map_pure, join_parts h]
  | cons stage stages ih =>
      intro done a hnodup hdone h
      obtain ⟨hstage, hnodup⟩ := List.nodup_cons.1 hnodup
      have hpass := mapM_afterStage f scope (hdone stage (List.mem_cons_self ..)) h
      rw [List.foldlM_cons, List.foldlM_cons, hpass]
      simp only [map_eq_pure_bind, bind_assoc, pure_bind]
      -- What the later stages find depends on what this one gives, not on what it could give.
      refine bind_congr_of_ok fun b hb => ?_
      rw [← map_eq_pure_bind]
      refine ih hnodup (fun other hother => ?_) (filledBy_or f scope h hb)
      rw [List.mem_cons, not_or]
      exact ⟨fun heq => hstage (heq ▸ hother), hdone _ (List.mem_cons_of_mem _ hother)⟩

/-- What a stage has filled in is left as it is by the others, so they need not go through it. -/
theorem render_eq_renderParts (nodes : Template) :
    render f nodes scope = renderParts f nodes scope := by
  have hnodup : Stage.all.Nodup := by decide
  have hfold := foldlM_afterStage f scope hnodup (by simp) (filledBy_ofTexts nodes)
  rw [parts_ofTexts] at hfold
  rw [renderParts, hfold]
  simp only [render, Stage.all, List.foldlM_cons, List.foldlM_nil, map_eq_pure_bind, bind_assoc,
    pure_bind]

end Template

end Stencil
