import Mathlib.Data.List.Chain
import Stencil.Proofs.Course
import Stencil.Validation.Basic

set_option autoImplicit false

/-! # No tags are left over

A page of a template without problems has no two opening braces in a row, as long as no value puts
an opening brace into it. The texts between the tags have none, since the check looks for them. Two
texts that come to stand next to each other have none at their seam either, since a text before a
tag does not end in an opening brace: the tag would start there (`sealed_of_startsTag`). Only the
last text of a template may end so, and it stays the last one on the page (`parse_sealed`). -/

namespace Stencil

open Telling

/-! ## Opening braces in a text -/

namespace Text

/-- No two opening braces stand next to each other. -/
def Untagged (cs : List Char) : Prop :=
  cs.IsChain fun a b => ¬ (a = '{' ∧ b = '{')

/-- No two opening braces stand next to each other, and none does at the end. -/
def Sealed (cs : List Char) : Prop :=
  Untagged cs ∧ cs.getLast? ≠ some '{'

theorem not_infix_of_untagged {cs : List Char} (h : Untagged cs) :
    ¬ ['{', '{'] <:+: cs := by
  rintro ⟨before, after, rfl⟩
  rw [List.append_assoc] at h
  exact List.isChain_iff_forall_rel_of_append_cons_cons.1 h rfl ⟨rfl, rfl⟩

theorem untagged_of_not_mem {cs : List Char} (h : '{' ∉ cs) : Untagged cs := by
  refine List.isChain_iff_forall_rel_of_append_cons_cons.2 ?_
  rintro a b before after rfl ⟨rfl, -⟩
  exact h (by simp)

theorem sealed_of_not_mem {cs : List Char} (h : '{' ∉ cs) : Sealed cs :=
  ⟨untagged_of_not_mem h, fun hlast => h (List.mem_of_getLast? hlast)⟩

/-- Nothing comes up at the seam after a sealed text. -/
theorem Sealed.untagged_append {cs ds : List Char} (hc : Sealed cs) (hd : Untagged ds) :
    Untagged (cs ++ ds) := by
  refine List.isChain_append.2 ⟨hc.1, hd, ?_⟩
  rintro a ha b - ⟨rfl, -⟩
  exact hc.2 ha

theorem Sealed.append {cs ds : List Char} (hc : Sealed cs) (hd : Sealed ds) :
    Sealed (cs ++ ds) := by
  refine ⟨hc.untagged_append hd.1, ?_⟩
  rw [List.getLast?_append]
  cases hlast : ds.getLast? with
  | none => exact hc.2
  | some c =>
      rw [Option.some_or, ← hlast]
      exact hd.2

end Text

/-- The check for opening braces finds a pair just if there is one. -/
theorem openDelimiters_eq_nil_iff {cs : List Char} {line : Nat} :
    openDelimiters line cs = [] ↔ Text.Untagged cs := by
  fun_induction openDelimiters line cs with
  | case1 line cs _ =>
      refine ⟨fun h => (by cases h), fun h => ?_⟩
      exact absurd ⟨rfl, rfl⟩ (List.isChain_cons_cons.1 h).1
  | case2 line c cs hc ih =>
      rw [ih, Text.Untagged, Text.Untagged, List.isChain_cons, and_iff_right]
      rintro d hd ⟨rfl, rfl⟩
      obtain ⟨ds, rfl⟩ := List.head?_eq_some_iff.1 hd
      exact hc ds rfl rfl
  | case3 => exact ⟨fun _ => List.isChain_nil, fun _ => rfl⟩

/-! ## Texts between tags -/

namespace Segment

/-- A text does not end in an opening brace if a tag comes after it and starts no earlier. -/
theorem getLast?_ne_of_startsTag {gap rest : List Char}
    (hfirst : ∀ a b, gap = a ++ b → b ≠ [] → ¬ StartsTag (b ++ rest)) (hrest : StartsTag rest) :
    gap.getLast? ≠ some '{' := by
  intro hlast
  obtain ⟨before, rfl⟩ := List.getLast?_eq_some_iff.1 hlast
  obtain ⟨body, after, hne, hbody, rfl⟩ := hrest
  -- With the last brace of the text, the tag would start one character earlier.
  refine hfirst before ['{'] rfl (by simp) ⟨'{' :: body, after, by simp, ?_, ?_⟩
  · simpa using hbody
  · simp [source]

theorem sealed_of_startsTag {gap rest : List Char} (hgap : Text.Untagged gap)
    (hfirst : ∀ a b, gap = a ++ b → b ≠ [] → ¬ StartsTag (b ++ rest)) (hrest : StartsTag rest) :
    Text.Sealed gap :=
  ⟨hgap, getLast?_ne_of_startsTag hfirst hrest⟩

end Segment

/-- The texts among the pieces are sealed. -/
def Piece.AllSealed (ps : List Piece) : Prop :=
  ∀ cs, .text cs ∈ ps → Text.Sealed cs

theorem Piece.allSealed_nil : AllSealed [] := fun _ h => by cases h

/-- If no pair of opening braces is left between the tags, all texts are sealed but a last one. -/
theorem Piece.allSealed_ofSegments {cs : List Char} {ss : List Segment}
    (h : Segment.Leftmost cs ss) : ∀ line, strayDelimiters line ss = [] →
      ∃ ps last, ofSegments line ss = ps ++ last ∧ AllSealed ps ∧
        (last = [] ∨ ∃ ds, last = [.text ds] ∧ Text.Untagged ds) := by
  induction h with
  | nil => exact fun line _ => ⟨[], [], rfl, allSealed_nil, Or.inl rfl⟩
  | @tag body rest ss _ _ _ ih =>
      intro line hstray
      obtain ⟨ps, last, heq, hps, hlast⟩ := ih _ hstray
      refine ⟨.tag (Tag.read body) line :: ps, last, ?_, fun ds hds => ?_, hlast⟩
      · rw [ofSegments, heq, List.cons_append]
      · exact hps ds ((List.mem_cons.1 hds).resolve_left fun h => by cases h)
  | @text gap rest ss _ hfirst hrest hss ih =>
      intro line hstray
      obtain ⟨hgap, hstray⟩ := List.append_eq_nil_iff.1 hstray
      have hgap : Text.Untagged gap := openDelimiters_eq_nil_iff.1 hgap
      -- At the end of the text the gap may end in a brace; anywhere else a tag comes after it.
      rcases hrest with rfl | hrest
      · obtain rfl := Segment.eq_nil_of_leftmost_nil hss
        exact ⟨[], [.text gap], rfl, allSealed_nil, Or.inr ⟨gap, rfl, hgap⟩⟩
      · obtain ⟨ps, last, heq, hps, hlast⟩ := ih _ hstray
        refine ⟨.text gap :: ps, last, ?_, fun ds hds => ?_, hlast⟩
        · rw [ofSegments, heq, List.cons_append]
        · rcases List.mem_cons.1 hds with h | h
          · cases h
            exact Segment.sealed_of_startsTag hgap hfirst hrest
          · exact hps ds h

/-! ## Texts of a template -/

namespace Template

/-- The texts in a template are sealed. -/
def AllSealed (nodes : Template) : Prop :=
  ∀ s, .text s ∈ walk nodes → Text.Sealed s.toList

theorem allSealed_nil : AllSealed [] := fun _ h => by cases h

theorem allSealed_append {a b : Template} :
    AllSealed (a ++ b) ↔ AllSealed a ∧ AllSealed b := by
  simp only [AllSealed, walk_append, List.mem_append]
  exact ⟨fun h => ⟨fun s hs => h s (Or.inl hs), fun s hs => h s (Or.inr hs)⟩,
    fun h s hs => hs.elim (h.1 s) (h.2 s)⟩

theorem allSealed_cons {n : Node} {ns : Template} :
    AllSealed (n :: ns) ↔ AllSealed [n] ∧ AllSealed ns :=
  allSealed_append (a := [n])

theorem allSealed_text {s : String} : AllSealed [.text s] ↔ Text.Sealed s.toList := by
  simp [AllSealed, walk, walkNode]

theorem AllSealed.add {nodes : Template} {n : Node} (h : AllSealed nodes) (hn : AllSealed [n]) :
    AllSealed (add nodes n) := by
  fun_induction Template.add nodes n with
  | case1 n => exact hn
  | case2 s t =>
      rw [allSealed_text] at h hn ⊢
      rw [String.toList_append]
      exact h.append hn
  | case3 m ms n _ ih =>
      obtain ⟨hm, hms⟩ := allSealed_cons.1 h
      exact allSealed_cons.2 ⟨hm, ih hms hn⟩

theorem AllSealed.join {others : Template} (ho : AllSealed others) : ∀ {nodes : Template},
    AllSealed nodes → AllSealed (join nodes others) := by
  induction others with
  | nil => exact fun h => h
  | cons n ns ih =>
      obtain ⟨hn, hns⟩ := allSealed_cons.1 ho
      exact fun h => ih hns (h.add hn)

/-- Adding a text gives a last text, before which nothing has changed. -/
theorem exists_add_text {nodes : Template} (h : AllSealed nodes) {s : String}
    (hs : Text.Untagged s.toList) :
    ∃ front last, add nodes (.text s) = front ++ [.text last] ∧ AllSealed front ∧
      Text.Untagged last.toList := by
  generalize hn : Node.text s = n
  fun_induction Template.add nodes n with
  | case1 n => exact ⟨[], s, by rw [← hn]; rfl, h, hs⟩
  | case2 t u =>
      cases hn
      refine ⟨[], t ++ s, rfl, allSealed_nil, ?_⟩
      rw [String.toList_append]
      exact (allSealed_text.1 h).untagged_append hs
  | case3 m ms n _ ih =>
      obtain ⟨hm, hms⟩ := allSealed_cons.1 h
      obtain ⟨front, last, heq, hfront, hlast⟩ := ih hms hn
      exact ⟨m :: front, last, by rw [heq, List.cons_append],
        allSealed_cons.2 ⟨hm, hfront⟩, hlast⟩

end Template

namespace Progress

/-- The texts that have been read are sealed. -/
structure AllSealed (p : Progress) : Prop where
  pending : ∀ b ∈ p.pending, Template.AllSealed b.before
  nodes : Template.AllSealed p.nodes

theorem AllSealed.closeKind? {kind : BlockKind} {bs : List OpenBlock} : ∀ {nodes : Template},
    AllSealed ⟨bs, nodes⟩ → ∀ q ∈ Progress.closeKind? kind bs nodes, q.AllSealed := by
  induction bs with
  | nil => exact fun _ _ hq => by cases hq
  | cons b bs ih =>
      intro nodes h q hq
      obtain ⟨hb, hbs⟩ := List.forall_mem_cons.1 h.pending
      rw [Progress.closeKind?] at hq
      split at hq
      · cases hq
        refine ⟨hbs, Template.allSealed_append.2 ⟨hb, fun s hs => ?_⟩⟩
        simp only [Template.walk, Template.walkNode, List.append_nil] at hs
        exact h.nodes s ((List.mem_cons.1 hs).resolve_left fun h => by cases h)
      · exact ih ⟨hbs, h.nodes.join hb⟩ q hq

theorem AllSealed.step {p : Progress} {piece : Piece} (h : p.AllSealed)
    (hpiece : Piece.AllSealed [piece]) : (p.step piece).AllSealed := by
  rcases piece with cs | ⟨⟨kind, subject⟩ | kind | ⟨name, arguments⟩ | e, line⟩
  · refine ⟨h.pending, h.nodes.add (Template.allSealed_text.2 ?_)⟩
    rw [String.toList_ofList]
    exact hpiece cs (List.mem_singleton_self _)
  · exact ⟨List.forall_mem_cons.2 ⟨h.nodes, h.pending⟩, Template.allSealed_nil⟩
  · rw [Progress.step]
    cases hq : Progress.closeKind? kind p.pending p.nodes with
    | none => exact h
    | some q => exact h.closeKind? q hq
  · exact ⟨h.pending, h.nodes.add fun s hs => by simp [Template.walk, Template.walkNode] at hs⟩
  · exact ⟨h.pending, h.nodes.add fun s hs => by simp [Template.walk, Template.walkNode] at hs⟩

theorem AllSealed.foldl {ps : List Piece} : ∀ {p : Progress}, p.AllSealed → Piece.AllSealed ps →
    (ps.foldl Progress.step p).AllSealed := by
  induction ps with
  | nil => exact fun h _ => h
  | cons piece ps ih =>
      intro p h hps
      refine ih (h.step fun cs hcs => ?_) fun cs hcs => hps cs (List.mem_cons_of_mem _ hcs)
      exact hps cs (List.mem_singleton.1 hcs ▸ List.mem_cons_self)

theorem AllSealed.finish {p : Progress} (h : p.AllSealed) : Template.AllSealed p.finish := by
  obtain ⟨bs, nodes⟩ := p
  induction bs generalizing nodes with
  | nil => exact h.nodes
  | cons b bs ih =>
      obtain ⟨hb, hbs⟩ := List.forall_mem_cons.1 h.pending
      exact ih (b.dissolve nodes) ⟨hbs, h.nodes.join hb⟩

/-- A node that is read last stays the last one. -/
theorem finish_add (p : Progress) (n : Node) : (p.add n).finish = Template.add p.finish n := by
  obtain ⟨bs, nodes⟩ := p
  induction bs generalizing nodes with
  | nil => rfl
  | cons b bs ih =>
      have hdissolve : b.dissolve (Template.add nodes n) = Template.add (b.dissolve nodes) n :=
        Template.join_add b.before nodes n
      have h := ih (b.dissolve nodes)
      simp only [finish, add, List.foldl_cons, hdissolve] at h ⊢
      exact h

end Progress

/-- Of a text without stray opening braces, all texts of the template are sealed but a last one. -/
theorem Template.allSealed_parse {s : String} (h : openDelimiterLines s = []) :
    ∃ front last, parse s = front ++ last ∧ AllSealed front ∧
      (last = [] ∨ ∃ t, last = [.text t] ∧ Text.Untagged t.toList) := by
  obtain ⟨ps, last, hpieces, hps, hlast⟩ :=
    Piece.allSealed_ofSegments (Segment.leftmost_scan s.toList) 1 h
  have hstart : Progress.start.AllSealed := ⟨fun _ h => (by cases h), Template.allSealed_nil⟩
  have hread := (hstart.foldl hps).finish
  have hparse : parse s = ((ps ++ last).foldl Progress.step .start).finish := by
    rw [← hpieces]
    rfl
  rw [hparse, List.foldl_append]
  rcases hlast with rfl | ⟨ds, rfl, hds⟩
  · exact ⟨_, [], (List.append_nil _).symm, hread, Or.inl rfl⟩
  · obtain ⟨front, t, heq, hfront, ht⟩ := exists_add_text hread (s := String.ofList ds)
      (by rwa [String.toList_ofList])
    refine ⟨front, [.text t], ?_, hfront, Or.inr ⟨t, rfl, ht⟩⟩
    rw [← heq, ← Progress.finish_add]
    rfl

/-! ## Pages -/

/-- Escaping puts no opening brace into a text. -/
theorem Html.not_mem_escape {d : String} (h : '{' ∉ d.toList) : '{' ∉ (Html.escape d).toList := by
  rw [Html.escape, String.toList_ofList, Html.escapeChars, List.mem_flatMap]
  rintro ⟨c, hc, hbrace⟩
  unfold Html.escapeChar at hbrace
  split at hbrace
  case h_6 =>
    rw [List.mem_singleton] at hbrace
    exact h (hbrace ▸ hc)
  all_goals revert hbrace; decide

namespace Visit

variable {f : Functions}

/-- A visit gives a sealed text if it is to no other text and the value that it shows has no opening
    brace. -/
theorem sealed_of_render_ok [Attributes] {v : Visit} {s : String} (h : (v.render f).outcome = .ok s)
    (htext : ∀ t, v.node = .text t → Text.Sealed t.toList)
    (hshown : ∀ x ∈ v.shown? f, ∀ d, x.display = .ok d → '{' ∉ d.toList) :
    Text.Sealed s.toList := by
  rcases text_of_render_ok h with hnode | rfl | ⟨x, hx, d, hd, rfl | rfl⟩
  · exact htext s hnode
  · exact Text.sealed_of_not_mem (by simp)
  · exact Text.sealed_of_not_mem (hshown x hx s hd)
  · exact Text.sealed_of_not_mem (Html.not_mem_escape (hshown x hx d hd))

/-- No pair of opening braces comes up where sealed texts are followed by others. -/
theorem untagged_join [Attributes] {last : List Visit}
    (hlast : ∀ texts, List.Forall₂ (fun v s => (v.render f).outcome = .ok s) last texts →
      Text.Untagged (String.join texts).toList)
    {visits : List Visit}
    (hvisits : ∀ v ∈ visits, ∀ s, (v.render f).outcome = .ok s → Text.Sealed s.toList) :
    ∀ {texts : List String},
      List.Forall₂ (fun v s => (v.render f).outcome = .ok s) (visits ++ last) texts →
        Text.Untagged (String.join texts).toList := by
  induction visits with
  | nil => exact fun h => hlast _ h
  | cons v visits ih =>
      intro texts h
      obtain ⟨hv, hvisits⟩ := List.forall_mem_cons.1 hvisits
      cases h with
      | @cons _ s _ texts hs h =>
          rw [String.join_cons, String.toList_append]
          exact (hv s hs).untagged_append (ih hvisits h)

end Visit

/-- A page has no two opening braces in a row if there are none between the tags of its template and
    no value that it shows has one. -/
theorem Template.untagged_of_render_ok [Attributes] {f : Functions} {text : String} {scope : Scope}
    (h : openDelimiterLines text = [])
    (hshown : ∀ x ∈ shownValues f (parse text) scope, ∀ d, x.display = .ok d → '{' ∉ d.toList)
    {page : String} (hpage : (render f (parse text) scope).outcome = .ok page) :
    Text.Untagged page.toList := by
  obtain ⟨⟨texts, rfl, hall⟩, -⟩ := of_render_ok (readable_parse text) hpage
  obtain ⟨front, last, hparse, hfront, hlast⟩ := allSealed_parse h
  rw [hparse, course_append] at hall
  refine Visit.untagged_join (fun ts hts => ?_) (fun v hv s hs => ?_) hall
  · rcases hlast with rfl | ⟨t, rfl, ht⟩
    · cases hts
      exact List.isChain_nil
    · cases hts with
      | cons hs hts =>
          cases hts
          cases hs
          simpa using ht
  · refine Visit.sealed_of_render_ok hs (fun t ht => hfront t ?_) fun x hx => hshown x ?_
    · exact ht ▸ mem_walk_of_mem_course front scope v hv
    · refine List.mem_filterMap.2 ⟨v, ?_, hx⟩
      rw [hparse, course_append]
      exact List.mem_append_left _ hv

namespace Engine

theorem openDelimiterLines_of_check {e : Engine} {strictness : Strictness} {text : String}
    {expected : List String} {limit : Option Int}
    (h : (e.check strictness text expected limit).problems = []) :
    Template.openDelimiterLines text = [] := by
  unfold check at h
  split at h
  · cases h
  · obtain ⟨h, -⟩ := List.append_eq_nil_iff.1 h
    obtain ⟨-, h⟩ := List.append_eq_nil_iff.1 h
    obtain ⟨-, h⟩ := List.append_eq_nil_iff.1 h
    exact List.map_eq_nil_iff.1 h

end Engine

/-- A page without a pair of opening braces is not said to have a tag in it. -/
theorem concerns_of_checkOutput {page : String} (h : Text.Untagged page.toList)
    {limit : Option Int} {required forbidden : List String} {report : Report}
    (hreport : checkOutput page limit required forbidden = .ok report) : report.concerns = [] := by
  obtain ⟨missing, -, hreport⟩ := bind_eq_ok.1 hreport
  obtain ⟨unwanted, -, hreport⟩ := bind_eq_ok.1 hreport
  cases hreport
  rw [openDelimiters_eq_nil_iff.2 h]
  rfl

namespace Engine

/-- **No tags are left over.** A template in which a check finds no problem, however strict it is and
    whatever engine does it, is rendered to a page without two opening braces in a row, in any scope
    in which no value that the page shows has an opening brace: so a check of the page has no
    concern. There is such a page unless one of these values is too long to be written. -/
theorem process_untagged [Attributes] (checker e : Engine) (strictness : Strictness) (text : String)
    (expected : List String) (limit : Option Int) (scope : Scope)
    (hcheck : (checker.check strictness text expected limit).problems = [])
    (hshown : ∀ x ∈ Template.shownValues e.functions (Template.parse text) scope,
      ∀ d, x.display = .ok d → '{' ∉ d.toList) :
    (∀ page, (e.process text scope).2.outcome = .ok page →
      ¬ ['{', '{'] <:+: page.toList ∧
      ∀ limit required forbidden report,
        checkOutput page limit required forbidden = .ok report → report.concerns = []) ∧
    ((∀ x ∈ Template.shownValues e.functions (Template.parse text) scope, x.isTooLong = false) →
      ∃ page, (e.process text scope).2.outcome = .ok page) := by
  rw [process_eq]
  refine ⟨fun page hpage => ?_, fun hlong => ?_⟩
  · have h := Template.untagged_of_render_ok (openDelimiterLines_of_check hcheck) hshown hpage
    exact ⟨Text.not_infix_of_untagged h, fun _ _ _ _ hr => concerns_of_checkOutput h hr⟩
  · exact Template.render_ok (Template.readable_parse text) hlong

/-- A loop, a condition that is not met, and a brace at the end. -/
theorem process_untagged_loop :
    let e := standard 1 []
    let text := String.ofList (Template.printed [
      .block .loop "xs" 1 [.text "a", .variable "this" 1], .text "b",
      .block .conditional "no" 1 [.text "c"]] ++ ['{'])
    let scope := e.pageScope (Entries.ofFields [("xs", .list [.str "1", .str "<"])]) []
    (e.check .strict text [] none).problems = [] ∧
    (∀ x ∈ Template.shownValues e.functions (Template.parse text) scope,
      ∀ d, x.display = .ok d → '{' ∉ d.toList) ∧
    (∀ page, (e.process text scope).2.outcome = .ok page →
      ¬ ['{', '{'] <:+: page.toList ∧
      ∀ limit required forbidden report,
        checkOutput page limit required forbidden = .ok report → report.concerns = []) ∧
    ∃ page, (e.process text scope).2.outcome = .ok page := by
  intro e text scope
  have hcheck : (e.check .strict text [] none).problems = [] := by decide +kernel
  have hshown : ∀ x ∈ Template.shownValues e.functions (Template.parse text) scope,
      ∀ d, x.display = .ok d → '{' ∉ d.toList := by
    have htexts : ∀ x ∈ Template.shownValues e.functions (Template.parse text) scope,
        '{' ∉ x.displayText.toList := by decide +kernel
    intro x hx d hd
    rw [← (Value.display_eq_ok_iff.1 hd).2]
    exact htexts x hx
  have hshort : ∀ x ∈ Template.shownValues e.functions (Template.parse text) scope,
      x.isTooLong = false := by decide +kernel
  obtain ⟨hclean, hpage⟩ := process_untagged e e .strict text [] none scope hcheck hshown
  exact ⟨hcheck, hshown, hclean, hpage hshort⟩

end Engine

end Stencil
