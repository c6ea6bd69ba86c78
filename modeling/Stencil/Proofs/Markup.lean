import Stencil.Engine.Basic
import Stencil.Html.Escape
import Stencil.Proofs.Course

set_option autoImplicit false

/-! # Values put no markup into a page

A value is escaped once, as a whole, when a page shows it, so that what the page shows is inert: no
character of it can open or close a tag or an attribute, and its ampersands all begin entities
(`inert_escapeChars`). A page without component tags has the texts of its template and such inert
texts, one after the other (`render_inert`), and so all its markup is that of the template. -/

namespace Stencil

open Telling

/-! ## Inert texts -/

namespace Html

/-- Whether a character can open or close a tag or a quoted attribute. -/
def isMarkup (c : Char) : Bool :=
  c == '<' || c == '>' || c == '"' || c == '\''

/-- The entities that stand for the significant characters. -/
def entities : List String :=
  ["&amp;", "&lt;", "&gt;", "&#34;", "&#39;"]

/-- A text without markup in which every ampersand begins one of the entities. -/
structure Inert (cs : List Char) : Prop where
  noMarkup : ∀ c ∈ cs, isMarkup c = false
  ampersands : ∀ rest, '&' :: rest <:+ cs → ∃ entity ∈ entities, entity.toList <+: '&' :: rest

theorem inert_nil : Inert [] where
  noMarkup _ h := nomatch h
  ampersands _ h := nomatch List.suffix_nil.1 h

/-- A character that is neither markup nor an ampersand may stand anywhere. -/
theorem Inert.cons {c : Char} {cs : List Char} (h : Inert cs) (hc : isMarkup c = false)
    (hne : c ≠ '&') : Inert (c :: cs) where
  noMarkup := List.forall_mem_cons.2 ⟨hc, h.noMarkup⟩
  ampersands rest hrest := by
    rcases List.suffix_cons_iff.1 hrest with heq | hrest
    · exact absurd (List.cons.inj heq).1.symm hne
    · exact h.ampersands rest hrest

theorem Inert.append_left {cs : List Char} (h : Inert cs) : ∀ {front : List Char},
    (∀ c ∈ front, isMarkup c = false ∧ c ≠ '&') → Inert (front ++ cs)
  | [], _ => h
  | _ :: _, hfront => by
      obtain ⟨⟨hc, hne⟩, hfront⟩ := List.forall_mem_cons.1 hfront
      exact (h.append_left hfront).cons hc hne

/-- An entity may stand anywhere. -/
theorem Inert.entity_append {cs name : List Char} (h : Inert cs)
    (hentity : String.ofList ('&' :: name) ∈ entities)
    (hname : ∀ c ∈ name, isMarkup c = false ∧ c ≠ '&') : Inert ('&' :: name ++ cs) where
  noMarkup := List.forall_mem_cons.2 ⟨rfl, (h.append_left hname).noMarkup⟩
  ampersands rest hrest := by
    rcases List.suffix_cons_iff.1 hrest with heq | hrest
    · refine ⟨_, hentity, ?_⟩
      rw [heq, String.toList_ofList]
      exact List.prefix_append _ _
    · exact (h.append_left hname).ampersands rest hrest

theorem Inert.escapeChar_append {cs : List Char} (h : Inert cs) (c : Char) :
    Inert (escapeChar c ++ cs) := by
  unfold escapeChar
  split
  case h_6 hamp hlt hgt hquote hapostrophe =>
    refine h.cons ?_ hamp
    simp only [isMarkup, Bool.or_eq_false_iff, beq_eq_false_iff_ne]
    exact ⟨⟨⟨hlt, hgt⟩, hquote⟩, hapostrophe⟩
  all_goals exact h.entity_append (by decide) (by simp [isMarkup])

/-- Escaped text is inert. -/
theorem inert_escapeChars (cs : List Char) : Inert (escapeChars cs) := by
  induction cs with
  | nil => exact inert_nil
  | cons c cs ih =>
      rw [escapeChars, List.flatMap_cons]
      exact ih.escapeChar_append c

theorem Inert.filter_isMarkup {cs : List Char} (h : Inert cs) : cs.filter isMarkup = [] := by
  refine List.filter_eq_nil_iff.2 fun c hc => ?_
  rw [h.noMarkup c hc]
  exact Bool.false_ne_true

end Html

/-! ## What the visits put into a page -/

/-- Whether a node calls a component. -/
def Node.isComponent : Node → Bool
  | .component _ _ _ => true
  | _ => false

/-- Whether a node is a block. -/
def Node.isBlock : Node → Bool
  | .block _ _ _ _ => true
  | _ => false

section

variable [Attributes]

/-- What a text or a variable puts into a page: the text as it is, or an inert text that says in
    entities what the value of the variable is displayed as. -/
inductive Visit.Puts (f : Functions) : Visit → String → Prop
  | text (s : String) (scope : Scope) : Puts f ⟨.text s, scope⟩ s
  | value {e : String} {line : Nat} {scope : Scope} {x : Value} {shown s : String} :
      (f.evaluate scope e.toList).outcome = .ok x → x.display = .ok shown →
        Html.Inert s.toList → Html.decodeChars s.toList = shown.toList →
          Puts f ⟨.variable e line, scope⟩ s

namespace Visit

variable {f : Functions}

theorem puts_of_render_ok {v : Visit} {s : String} (h : (v.render f).outcome = .ok s)
    (hcomponent : v.node.isComponent = false) (hblock : v.node.isBlock = false) : v.Puts f s := by
  obtain ⟨n, scope⟩ := v
  rcases n with t | ⟨e, line⟩ | ⟨name, arguments, line⟩ | ⟨kind, subject, line, body⟩
  · cases h
    exact .text _ scope
  · obtain ⟨x, hx, h⟩ := bind_outcome_ok.1 h
    obtain ⟨shown, hshown, h⟩ := bind_outcome_ok.1 h
    cases h
    have htoList : (Html.escape shown).toList = Html.escapeChars shown.toList :=
      String.toList_ofList
    refine .value hx hshown ?_ ?_
    · rw [htoList]
      exact Html.inert_escapeChars _
    · rw [htoList]
      exact Html.decode_escape _
  · cases hcomponent
  · cases hblock

/-- Blocks put nothing into a page themselves. -/
theorem eq_empty_of_render_ok {v : Visit} {s : String} (h : (v.render f).outcome = .ok s)
    (hblock : v.node.isBlock = true) : s = "" := by
  obtain ⟨n, scope⟩ := v
  rcases n with t | ⟨e, line⟩ | ⟨name, arguments, line⟩ | ⟨_ | _, subject, line, body⟩
  case block.conditional =>
    obtain ⟨_, -, h⟩ := bind_outcome_ok.1 h
    cases h
    rfl
  case block.loop =>
    cases h
    rfl
  all_goals cases hblock

/-- The texts of visits, without the empty ones of blocks. -/
theorem exists_pieces {visits : List Visit} {texts : List String}
    (h : List.Forall₂ (fun v s => (v.render f).outcome = .ok s) visits texts)
    (hcomponent : ∀ v ∈ visits, v.node.isComponent = false) :
    ∃ pieces, String.join texts = String.join pieces ∧
      List.Forall₂ (Puts f) (visits.filter (!·.node.isBlock)) pieces := by
  induction h with
  | nil => exact ⟨[], rfl, .nil⟩
  | @cons v s visits texts hs _ ih =>
      obtain ⟨hv, hvisits⟩ := List.forall_mem_cons.1 hcomponent
      obtain ⟨pieces, hjoin, hpieces⟩ := ih hvisits
      cases hblock : v.node.isBlock with
      | true =>
          obtain rfl := eq_empty_of_render_ok hs hblock
          refine ⟨pieces, ?_, ?_⟩
          · rw [String.join_cons, String.empty_append, hjoin]
          · rwa [List.filter_cons_of_neg (by simp [hblock])]
      | false =>
          refine ⟨s :: pieces, ?_, ?_⟩
          · rw [String.join_cons, String.join_cons, hjoin]
          · rw [List.filter_cons_of_pos (by simp [hblock])]
            exact .cons (puts_of_render_ok hs hv hblock) hpieces

/-- All markup comes from texts. -/
theorem filter_isMarkup_of_puts {visits : List Visit} {pieces : List String}
    (h : List.Forall₂ (Puts f) visits pieces) :
    (String.join pieces).toList.filter Html.isMarkup
      = (visits.flatMap (·.node.ownText)).filter Html.isMarkup := by
  induction h with
  | nil => rfl
  | @cons v s visits pieces hs _ ih =>
      rw [String.join_cons, String.toList_append, List.filter_append, ih, List.flatMap_cons,
        List.filter_append]
      cases hs with
      | text s scope => rfl
      | value hx hshown hinert hdecode =>
          rw [hinert.filter_isMarkup]
          rfl

end Visit

/-! ## Pages -/

/-- The visits that put something into a page: those to texts, variables and components. -/
def Template.leaves (f : Functions) (nodes : Template) (scope : Scope) : List Visit :=
  (course f nodes scope).filter (!·.node.isBlock)

end

namespace Engine

section

variable [Attributes]

/-- **Values put no markup into a page.** Whatever the helpers of an engine do, each page of a
    template without component tags consists of one piece for each visit to a text or a variable, in
    the order of the page. The piece for a text of the template is that text. The piece for a variable
    has no markup and no ampersands but those of entities, and with the entities replaced it is
    exactly what the value of the variable is displayed as. So the markup of the page is that of the
    texts. There is such a page for all data and options that a page can have, unless one of the
    values that it shows is too long to be written. -/
theorem render_inert (e : Engine) (template : String) (data options : Value)
    (hcomponent : ∀ n ∈ Template.walk (Template.parse (e.source template)),
      n.isComponent = false) :
    let nodes := Template.parse (e.source template)
    let outcome := (e.render (.str template) data options).2.outcome
    (∀ page, outcome = .ok page → ∃ scope pieces,
      (e.scope data options).outcome = .ok scope ∧
      page = String.join pieces ∧
      List.Forall₂ (Visit.Puts e.functions) (Template.leaves e.functions nodes scope) pieces ∧
      (∀ v ∈ Template.leaves e.functions nodes scope, v.node ∈ Template.walk nodes) ∧
      page.toList.filter Html.isMarkup
        = ((Template.leaves e.functions nodes scope).flatMap (·.node.ownText)).filter
            Html.isMarkup) ∧
    (∀ scope, (e.scope data options).outcome = .ok scope →
      (∀ v ∈ Template.shownValues e.functions nodes scope, v.isTooLong = false) →
        ∃ page, outcome = .ok page) := by
  intro nodes outcome
  have hread := Template.readable_parse (e.source template)
  have hpage : outcome = (e.scope data options >>= Template.render e.functions nodes).outcome := by
    rw [← e.render_str_snd]
  rw [hpage]
  refine ⟨fun page h => ?_, fun scope hscope hshown => ?_⟩
  · obtain ⟨scope, hscope, h⟩ := bind_outcome_ok.1 h
    obtain ⟨⟨texts, rfl, htexts⟩, -⟩ := Template.of_render_ok hread h
    have hvisits : ∀ v ∈ Template.course e.functions nodes scope, v.node ∈ Template.walk nodes :=
      Template.mem_walk_of_mem_course nodes scope
    obtain ⟨pieces, hjoin, hpieces⟩ :=
      Visit.exists_pieces htexts fun v hv => hcomponent _ (hvisits v hv)
    refine ⟨scope, pieces, hscope, hjoin, hpieces, fun v hv => ?_, ?_⟩
    · exact hvisits v (List.mem_of_mem_filter hv)
    · rw [hjoin]
      exact Visit.filter_isMarkup_of_puts hpieces
  · obtain ⟨page, h⟩ := Template.render_ok hread hshown
    exact ⟨page, bind_outcome_ok.2 ⟨scope, hscope, h⟩⟩

end

/-- A helper that gives tags, and data that look like markup, tags and entities: the page has the
    markup of the text in the loop, once for each item, and no other. -/
theorem render_inert_bold :
    let e := (standard 1 []).registerHelper "bold" fun arguments _ =>
      .ok (.list (.str "<b>" :: arguments))
    let template := String.ofList (Template.printed [
      .block .loop "xs" 1 [.text "<i>", .variable "bold this '>'" 1],
      .block .conditional "bold 1" 1 [.variable "quote" 1]])
    let data := Entries.ofFields [
      ("xs", .list [.str "&lt;", .list [.str "'\"", .null]]), ("quote", .str "\x7b\x7bx\x7d\x7d<")]
    (∀ n ∈ Template.walk (Template.parse (e.source template)), n.isComponent = false) ∧
    ∃ page, (e.render (.str template) (.map data) .null).2.outcome = .ok page ∧
      page.toList.filter Html.isMarkup = ['<', '>', '<', '>'] := by
  intro e template data
  have hcomponent : ∀ n ∈ Template.walk (Template.parse (e.source template)),
      n.isComponent = false := by decide +kernel
  have hshown : ∀ v ∈ Template.shownValues e.functions (Template.parse (e.source template))
      (e.pageScope data []), v.isTooLong = false := by decide +kernel
  have hscope : (e.scope (.map data) .null).outcome = .ok (e.pageScope data []) := rfl
  obtain ⟨hpieces, hpage⟩ := render_inert e template (.map data) .null hcomponent
  obtain ⟨page, h⟩ := hpage _ hscope hshown
  obtain ⟨scope, pieces, hsame, -, -, -, hmarkup⟩ := hpieces page h
  rw [hscope] at hsame
  cases hsame
  exact ⟨hcomponent, page, h, hmarkup.trans (by decide +kernel)⟩

end Engine

end Stencil
