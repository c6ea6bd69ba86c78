import Stencil.Proofs.Passes

set_option autoImplicit false

/-! # Renders that go alike

Two renders of a template go alike when the tag of each node does the same in both, whatever the
scopes are that the loops around it make: they give the same page and tell the same, but for the
kinds of notices that only one of them tells. `render_filterLog` says so for any relation between the
scopes of the two that loops keep, and `render_filterLog_of_leadsAlike` asks less of conditions. -/

namespace Stencil

/-! ## Notices left out -/

namespace Telling

variable {ε α β : Type}

/-- The computation without the notices that are not kept. -/
def filterLog (keep : Notice → Bool) (t : Telling ε α) : Telling ε α :=
  ⟨t.log.filter keep, t.outcome⟩

@[simp] theorem filterLog_pure (keep : Notice → Bool) (a : α) :
    (pure a : Telling ε α).filterLog keep = pure a := rfl

@[simp] theorem filterLog_bind (keep : Notice → Bool) (t : Telling ε α) (next : α → Telling ε β) :
    (t >>= next).filterLog keep = t.filterLog keep >>= fun a => (next a).filterLog keep := by
  rcases t with ⟨log, e | a⟩
  · rfl
  · simp only [filterLog, ok_bind, List.filter_append]

@[simp] theorem filterLog_map (keep : Notice → Bool) (t : Telling ε α) (f : α → β) :
    (f <$> t).filterLog keep = f <$> t.filterLog keep := by
  rw [map_eq_pure_bind, map_eq_pure_bind, filterLog_bind]
  rfl

@[simp] theorem filterLog_ofOutcome (keep : Notice → Bool) (o : Except ε α) :
    (ofOutcome o).filterLog keep = ofOutcome o := rfl

/-- Nothing is left out where all notices are kept. -/
@[simp] theorem filterLog_true (t : Telling ε α) : t.filterLog (fun _ => true) = t := by
  rw [filterLog, List.filter_true]

end Telling

/-- The texts of the items of a loop, where notices are left out of each. -/
theorem filterLog_forItems (keep : Notice → Bool) {text text' : Nat → Value → Traced String}
    (h : ∀ i item, text' i item = (text i item).filterLog keep) (items : List Value) :
    ∀ i, forItems text' i items = (forItems text i items).filterLog keep := by
  induction items with
  | nil => exact fun i => rfl
  | cons item items ih =>
      intro i
      simp only [forItems, h, ih, Telling.filterLog_bind, Telling.filterLog_pure]

/-! ## Tags that act alike -/

variable [Attributes]

/-- The tag of a node does the same with the functions `g` in the scope `t` as with the functions `f`
    in the scope `s`, but for the notices that are not kept. -/
def Node.ActsAlike (keep : Notice → Bool) (f g : Functions) (s t : Scope) : Node → Prop
  | .text _ => True
  | .variable e _ => g.evaluate t e.toList = (f.evaluate s e.toList).filterLog keep
  | .component name arguments _ =>
    g.expand t name arguments.toList = (f.expand s name arguments.toList).filterLog keep
  | .block .conditional subject _ _ =>
    g.evaluate t subject.toList = (f.evaluate s subject.toList).filterLog keep
  | .block .loop subject _ _ => t.loopItems subject.toList = s.loopItems subject.toList

/-- The node leads to the same page with the functions `g` in the scope `t` as with the functions
    `f` in the scope `s`. What a condition stands for may differ, as long as it is met in both or in
    neither. -/
def Node.LeadsAlike (keep : Notice → Bool) (f g : Functions) (s t : Scope) : Node → Prop
  | .block .conditional subject _ _ =>
    g.decides t subject.toList = (f.decides s subject.toList).filterLog keep
  | n => n.ActsAlike keep f g s t

/-- Tags that act alike lead to the same page. -/
theorem Node.ActsAlike.leadsAlike {keep : Notice → Bool} {f g : Functions} {s t : Scope} {n : Node}
    (h : n.ActsAlike keep f g s t) : n.LeadsAlike keep f g s t := by
  rcases n with x | ⟨e, line⟩ | ⟨name, arguments, line⟩ | ⟨_ | _, subject, line, body⟩
  · exact h
  · exact h
  · exact h
  · have hact : g.evaluate t subject.toList = (f.evaluate s subject.toList).filterLog keep := h
    simp only [LeadsAlike, Functions.decides, hact, Telling.filterLog_bind, Telling.filterLog_pure]
  · exact h

namespace Template

variable {keep : Notice → Bool} {f g : Functions}

theorem fill_filterLog {nodes : Template} {s t : Scope}
    (h : ∀ n ∈ nodes, renderNode g n t = (renderNode f n s).filterLog keep) (stage : Stage) :
    fill g stage nodes t = (fill f stage nodes s).filterLog keep := by
  induction nodes with
  | nil =>
      rw [fill, fill]
      rfl
  | cons n ns ih =>
      obtain ⟨hn, hns⟩ := List.forall_mem_cons.1 h
      rw [fill_cons, fill_cons, hn, ih hns]
      by_cases hs : n.stage? = some stage
      · simp only [if_pos hs, Telling.filterLog_bind, Telling.filterLog_map, Telling.filterLog_pure]
      · simp only [if_neg hs, Telling.filterLog_bind, Telling.filterLog_pure]

/-- Nodes that go alike one by one go alike in their stages. -/
theorem render_filterLog_of_nodes {nodes : Template} {s t : Scope}
    (h : ∀ n ∈ nodes, renderNode g n t = (renderNode f n s).filterLog keep) :
    render g nodes t = (render f nodes s).filterLog keep := by
  simp only [render, fill_filterLog h, Telling.filterLog_bind, Telling.filterLog_pure]

/-! ## Whole templates -/

mutual

theorem renderNode_filterLog {R : Scope → Scope → Prop}
    (hitem : ∀ s t item i n, R s t → R (s.atItem item i n) (t.atItem item i n)) :
    ∀ (n : Node), (∀ m ∈ walkNode n, ∀ s t, R s t → m.LeadsAlike keep f g s t) →
      ∀ s t, R s t → renderNode g n t = (renderNode f n s).filterLog keep
  | .text _, _, s, t, _ => by rw [renderNode, renderNode, Telling.filterLog_pure]
  | .variable e line, h, s, t, hst => by
      have hact : g.evaluate t e.toList = (f.evaluate s e.toList).filterLog keep :=
        h _ (mem_walkNode_self _) s t hst
      simp only [renderNode, Functions.interpolate, hact, Telling.filterLog_bind,
        Telling.filterLog_ofOutcome, Telling.filterLog_pure]
  | .component name arguments line, h, s, t, hst => h _ (mem_walkNode_self _) s t hst
  | .block .conditional subject line body, h, s, t, hst => by
      have hlead : g.decides t subject.toList = (f.decides s subject.toList).filterLog keep :=
        h _ (mem_walkNode_self _) s t hst
      have hbody := renderNodes_filterLog hitem body (forall_mem_body h) s t hst
      simp only [renderNode, hlead, Telling.filterLog_bind]
      refine bind_congr fun met => ?_
      cases met with
      | false => rfl
      | true => exact render_filterLog_of_nodes hbody
  | .block .loop subject line body, h, s, t, hst => by
      have hact : t.loopItems subject.toList = s.loopItems subject.toList :=
        h _ (mem_walkNode_self _) s t hst
      simp only [renderNode, hact]
      refine filterLog_forItems keep (fun i item => ?_) _ 0
      have hbody := renderNodes_filterLog hitem body (forall_mem_body h) _ _
        (hitem s t item i (s.loopItems subject.toList).length hst)
      exact render_filterLog_of_nodes hbody

theorem renderNodes_filterLog {R : Scope → Scope → Prop}
    (hitem : ∀ s t item i n, R s t → R (s.atItem item i n) (t.atItem item i n)) :
    ∀ (nodes : List Node), (∀ m ∈ walk nodes, ∀ s t, R s t → m.LeadsAlike keep f g s t) →
      ∀ s t, R s t → ∀ n ∈ nodes, renderNode g n t = (renderNode f n s).filterLog keep
  | [], _, _, _, _ => fun _ hn => nomatch hn
  | n :: ns, h, s, t, hst => by
      rw [walk, List.forall_mem_append] at h
      rw [List.forall_mem_cons]
      exact ⟨renderNode_filterLog hitem n h.1 s t hst, renderNodes_filterLog hitem ns h.2 s t hst⟩

end

/-- **Renders whose tags lead to the same page go alike**, in any two scopes that are related, as
    long as the scopes of the items of a loop are related as well. -/
theorem render_filterLog_of_leadsAlike {R : Scope → Scope → Prop}
    (hitem : ∀ s t item i n, R s t → R (s.atItem item i n) (t.atItem item i n))
    {nodes : Template} (h : ∀ n ∈ walk nodes, ∀ s t, R s t → n.LeadsAlike keep f g s t)
    {s t : Scope} (hst : R s t) : render g nodes t = (render f nodes s).filterLog keep :=
  render_filterLog_of_nodes (renderNodes_filterLog hitem nodes h s t hst)

/-- Renders whose tags act alike go alike. -/
theorem render_filterLog {R : Scope → Scope → Prop}
    (hitem : ∀ s t item i n, R s t → R (s.atItem item i n) (t.atItem item i n))
    {nodes : Template} (h : ∀ n ∈ walk nodes, ∀ s t, R s t → n.ActsAlike keep f g s t)
    {s t : Scope} (hst : R s t) : render g nodes t = (render f nodes s).filterLog keep :=
  render_filterLog_of_leadsAlike hitem (fun n hn s t hst => (h n hn s t hst).leadsAlike) hst

end Template

end Stencil
