import Stencil.Proofs.Course

set_option autoImplicit false

/-! # The course of a render in stages

A render in stages makes the visits of the course in the order of the page, but stage by stage: in
each list of nodes first those to conditional blocks and into them, then those to loops, to variables
and to components (`stagedCourse_perm`). Rendering does just what these visits do one after the
other, up to the first one that fails (`effect_render_eq_stagedCourse`). Texts need no visit. -/

namespace Stencil

open Telling

namespace Template

/-! ## Nodes in stages -/

/-- The stages fill every node but the texts, each once. -/
theorem perm_inStages (nodes : Template) :
    (inStages nodes).Perm (nodes.filter fun n => n.stage?.isSome) := by
  induction nodes with
  | nil => exact .refl _
  | cons n ns ih =>
      have hcons : (n :: inStages ns).Perm (n :: ns.filter fun n => n.stage?.isSome) := ih.cons n
      simp only [inStages, Stage.all, List.flatMap_cons, List.flatMap_nil, List.append_nil] at ih hcons
      simp only [inStages, Stage.all, List.flatMap_cons, List.flatMap_nil, List.append_nil,
        ofStage_cons, List.filter_cons]
      cases h : n.stage? with
      | none => simpa using ih
      | some stage =>
          -- In the order of the stages the node stands behind all nodes of the stages before its own.
          cases stage with
          | conditionals => simpa using hcons
          | loops => simpa using List.perm_middle.trans hcons
          | interpolations =>
              simpa using ((List.perm_middle.append_left _).trans List.perm_middle).trans hcons
          | components =>
              simpa using ((((List.perm_middle.append_left _).trans List.perm_middle).append_left
                _).trans List.perm_middle).trans hcons

theorem mem_of_mem_inStages {nodes : Template} {n : Node} (h : n ∈ inStages nodes) : n ∈ nodes := by
  obtain ⟨stage, -, hn⟩ := List.mem_flatMap.1 h
  exact List.mem_of_mem_filter hn

/-! ## Visits in stages -/

variable [Attributes]

mutual

/-- The visits to a node and into it. -/
def stagedCourseOf (f : Functions) : Node → Scope → List Visit
  | .text _, _ => []
  | .variable e line, scope => [⟨.variable e line, scope⟩]
  | .component name arguments line, scope => [⟨.component name arguments line, scope⟩]
  | .block .conditional subject line body, scope =>
    ⟨.block .conditional subject line body, scope⟩ ::
      if (f.valueOf scope subject.toList).isTruthy then
        Stage.all.flatMap fun stage => stagedCourseAt f stage body scope
      else []
  | .block .loop subject line body, scope =>
    let items := scope.loopItems subject.toList
    ⟨.block .loop subject line body, scope⟩ ::
      items.zipIdx.flatMap fun (item, i) =>
        Stage.all.flatMap fun stage => stagedCourseAt f stage body (scope.atItem item i items.length)

/-- The visits that a stage makes to nodes and into them. -/
def stagedCourseAt (f : Functions) (stage : Stage) : List Node → Scope → List Visit
  | [], _ => []
  | n :: ns, scope =>
    (if n.stage? = some stage then stagedCourseOf f n scope else []) ++ stagedCourseAt f stage ns scope

end

/-- The visits that rendering nodes makes, in the order in which it makes them. -/
def stagedCourse (f : Functions) (nodes : Template) (scope : Scope) : List Visit :=
  Stage.all.flatMap fun stage => stagedCourseAt f stage nodes scope

variable {f : Functions}

theorem stagedCourseOf_conditional (subject : String) (line : Nat) (body : Template)
    (scope : Scope) :
    stagedCourseOf f (.block .conditional subject line body) scope
      = ⟨.block .conditional subject line body, scope⟩ ::
        if (f.valueOf scope subject.toList).isTruthy then stagedCourse f body scope else [] := by
  rw [stagedCourseOf]
  rfl

theorem stagedCourseOf_loop (subject : String) (line : Nat) (body : Template)
    (scope : Scope) :
    stagedCourseOf f (.block .loop subject line body) scope
      = ⟨.block .loop subject line body, scope⟩ ::
        (scope.loopItems subject.toList).zipIdx.flatMap fun (item, i) =>
          stagedCourse f body (scope.atItem item i (scope.loopItems subject.toList).length) := by
  rw [stagedCourseOf]
  rfl

theorem stagedCourseAt_eq_flatMap (stage : Stage) (nodes : List Node) (scope : Scope) :
    stagedCourseAt f stage nodes scope
      = (ofStage stage nodes).flatMap fun n => stagedCourseOf f n scope := by
  induction nodes with
  | nil =>
      rw [stagedCourseAt]
      rfl
  | cons n ns ih =>
      rw [stagedCourseAt, ih, ofStage_cons]
      by_cases h : n.stage? = some stage
      · rw [if_pos h, if_pos h, List.flatMap_cons]
      · rw [if_neg h, if_neg h, List.nil_append]

/-- The nodes are visited in the order in which the stages fill them. -/
theorem stagedCourse_eq_flatMap (nodes : Template) (scope : Scope) :
    stagedCourse f nodes scope = (inStages nodes).flatMap fun n => stagedCourseOf f n scope := by
  simp only [stagedCourse, stagedCourseAt_eq_flatMap, inStages, List.flatMap_assoc]

/-! ## What the visits do -/

section

variable {α β : Type} {t : α → Traced β} {visits : α → List Visit}

theorem effect_mapM_singleton (v : Visit) :
    ([v].mapM (Visit.render f)).effect = (v.render f).effect := by
  rw [effect_mapM_cons]
  exact bind_pure _

/-- If each thing does what some visits do, then all of them do what all these visits do. -/
theorem effect_mapM_eq_visits {xs : List α}
    (h : ∀ x ∈ xs, (t x).effect = ((visits x).mapM (Visit.render f)).effect) :
    (xs.mapM t).effect = ((xs.flatMap visits).mapM (Visit.render f)).effect := by
  induction xs with
  | nil => rfl
  | cons x xs ih =>
      obtain ⟨hx, hxs⟩ := List.forall_mem_cons.1 h
      rw [effect_mapM_cons, hx, ih hxs, List.flatMap_cons, effect_mapM_append]

end

theorem effect_forItems {text : Nat → Value → Traced String}
    {visits : Nat → Value → List Visit}
    (h : ∀ i item, (text i item).effect = ((visits i item).mapM (Visit.render f)).effect)
    (items : List Value) : ∀ i, (forItems text i items).effect
      = (((items.zipIdx i).flatMap fun (item, i) => visits i item).mapM (Visit.render f)).effect := by
  induction items with
  | nil => exact fun i => rfl
  | cons item items ih =>
      intro i
      have hrest (s : String) :
          (do let rest ← forItems text (i + 1) items; return s ++ rest : Traced String).effect
            = (forItems text (i + 1) items).effect := by
        rw [← map_eq_pure_bind, effect_map]
      rw [forItems, effect_bind _ hrest, h, ih, List.zipIdx_cons, List.flatMap_cons,
        effect_mapM_append]

theorem effect_render_of_nodes {nodes : Template} {scope : Scope}
    (h : ∀ n ∈ nodes, (renderNode f n scope).effect
      = ((stagedCourseOf f n scope).mapM (Visit.render f)).effect) :
    (render f nodes scope).effect
      = ((stagedCourse f nodes scope).mapM (Visit.render f)).effect := by
  rw [effect_render, stagedCourse_eq_flatMap]
  exact effect_mapM_eq_visits fun n hn => h n (mem_of_mem_inStages hn)

mutual

theorem effect_renderNode : ∀ (n : Node), (∀ m ∈ walkNode n, m.Readable) → ∀ scope,
    (renderNode f n scope).effect = ((stagedCourseOf f n scope).mapM (Visit.render f)).effect
  | .text s, _, scope => by
      rw [renderNode, stagedCourseOf]
      rfl
  | .variable e line, _, scope => by
      rw [renderNode, stagedCourseOf, effect_mapM_singleton, Visit.render]
  | .component name arguments line, _, scope => by
      rw [renderNode, stagedCourseOf, effect_mapM_singleton, Visit.render]
  | .block .conditional subject line body, h, scope => by
      have hsubject : Expression.read subject.toList ≠ .blank :=
        h _ (mem_walkNode_self _) _ rfl
      have hbody := effect_render_of_nodes (effect_renderNodes body (forall_mem_body h) scope)
      have hvisit : (Visit.render f ⟨.block .conditional subject line body, scope⟩).effect
          = (f.decides scope subject.toList).effect := by
        show (f.decides scope subject.toList >>= fun _ => pure "").effect = _
        rw [← map_eq_pure_bind, effect_map]
      rw [renderNode, Functions.decides_bind hsubject, stagedCourseOf_conditional,
        effect_mapM_cons, hvisit]
      refine effect_bind _ fun _ => ?_
      cases (f.valueOf scope subject.toList).isTruthy with
      | false => rfl
      | true => exact hbody
  | .block .loop subject line body, h, scope => by
      have hbody (s : Scope) := effect_render_of_nodes (effect_renderNodes body (forall_mem_body h) s)
      rw [renderNode, stagedCourseOf_loop, effect_mapM_cons, Visit.render]
      exact effect_forItems (fun i item => hbody _) _ 0

theorem effect_renderNodes : ∀ (nodes : List Node),
    (∀ n ∈ walk nodes, n.Readable) → ∀ scope,
    ∀ n ∈ nodes, (renderNode f n scope).effect
      = ((stagedCourseOf f n scope).mapM (Visit.render f)).effect
  | [], _, _ => fun _ hn => nomatch hn
  | n :: ns, h, scope => by
      rw [walk, List.forall_mem_append] at h
      rw [List.forall_mem_cons]
      exact ⟨effect_renderNode n h.1 scope, effect_renderNodes ns h.2 scope⟩

end

/-- **Rendering is visiting.** Rendering a template whose expressions can be read tells what the
    visits of its course in stages tell, one after the other, and fails as the first of them does
    that fails. -/
theorem effect_render_eq_stagedCourse {nodes : Template}
    (h : ∀ n ∈ walk nodes, n.Readable) (scope : Scope) :
    (render f nodes scope).effect
      = ((stagedCourse f nodes scope).mapM (Visit.render f)).effect :=
  effect_render_of_nodes (effect_renderNodes nodes h scope)

/-! ## The same visits in the order of the page -/

theorem course_eq_flatMap (nodes : List Node) (scope : Scope) :
    course f nodes scope = nodes.flatMap fun n => courseOf f n scope := by
  induction nodes with
  | nil => rw [course, List.flatMap_nil]
  | cons n ns ih => rw [course, ih, List.flatMap_cons]

/-- No text is visited by a stage. -/
theorem flatMap_stagedCourseOf (nodes : List Node) (scope : Scope) :
    (nodes.filter fun n => n.stage?.isSome).flatMap (fun n => stagedCourseOf f n scope)
      = nodes.flatMap fun n => stagedCourseOf f n scope := by
  induction nodes with
  | nil => rfl
  | cons n ns ih =>
      rw [List.filter_cons, List.flatMap_cons, ← ih]
      cases h : n.stage? with
      | some stage => rfl
      | none =>
          obtain ⟨s, rfl⟩ := Node.eq_text_of_stage?_eq_none h
          rw [stagedCourseOf]
          rfl

theorem perm_course_of_nodes {nodes : Template} {scope : Scope}
    (h : ∀ n ∈ nodes, (stagedCourseOf f n scope).Perm
      ((courseOf f n scope).filter fun v => v.node.stage?.isSome)) :
    (stagedCourse f nodes scope).Perm
      ((course f nodes scope).filter fun v => v.node.stage?.isSome) := by
  rw [stagedCourse_eq_flatMap, course_eq_flatMap, List.filter_flatMap]
  refine ((perm_inStages nodes).flatMap_right _).trans ?_
  rw [flatMap_stagedCourseOf]
  exact .flatMap_left _ h

mutual

theorem perm_courseOf : ∀ (n : Node) (scope : Scope), (stagedCourseOf f n scope).Perm
    ((courseOf f n scope).filter fun v => v.node.stage?.isSome)
  | .text s, scope => by
      rw [stagedCourseOf, courseOf]
      exact .refl _
  | .variable e line, scope => by
      rw [stagedCourseOf, courseOf]
      exact .refl _
  | .component name arguments line, scope => by
      rw [stagedCourseOf, courseOf]
      exact .refl _
  | .block .conditional subject line body, scope => by
      have hbody := perm_course_of_nodes (perm_courseOf_nodes body scope)
      rw [stagedCourseOf_conditional, courseOf, List.filter_cons_of_pos rfl]
      refine .cons _ ?_
      split
      · exact hbody
      · exact .refl _
  | .block .loop subject line body, scope => by
      have hbody (s : Scope) := perm_course_of_nodes (perm_courseOf_nodes body s)
      rw [stagedCourseOf_loop, courseOf, List.filter_cons_of_pos rfl, List.filter_flatMap]
      exact .cons _ (.flatMap_left _ fun _ _ => hbody _)

theorem perm_courseOf_nodes : ∀ (nodes : List Node) (scope : Scope), ∀ n ∈ nodes,
    (stagedCourseOf f n scope).Perm
      ((courseOf f n scope).filter fun v => v.node.stage?.isSome)
  | [], _ => fun _ hn => nomatch hn
  | n :: ns, scope => by
      rw [List.forall_mem_cons]
      exact ⟨perm_courseOf n scope, perm_courseOf_nodes ns scope⟩

end

/-- **The stages visit what the page shows.** A render in stages makes the visits of the course in
    the order of the page, each as often, except those to texts, which need none. -/
theorem stagedCourse_perm (nodes : Template) (scope : Scope) :
    (stagedCourse f nodes scope).Perm
      ((course f nodes scope).filter fun v => v.node.stage?.isSome) :=
  perm_course_of_nodes (perm_courseOf_nodes nodes scope)

end Template

end Stencil
