import Stencil.Engine.Basic
import Stencil.Proofs.Course
import Stencil.Proofs.Quotation
import Stencil.Proofs.Scan

set_option autoImplicit false

/-! # Pages of one call

A template that is one tag of a variable or of a component calls at most one function, and its page
is what comes of the call. If the arguments are quoted texts, then the function is given these texts
as they are (`render_quoted`), whatever is in them. -/

namespace Stencil

/-- A text that is one tag is the template of that tag. -/
theorem Template.parse_tag {body : List Char} (hne : body ≠ []) (hbody : '}' ∉ body) :
    parse (String.ofList (Segment.tag body).source) = ofPieces [.tag (Tag.read body) 1] := by
  have hscan := Segment.scan_tag_append hne hbody []
  rw [List.append_nil, Segment.scan] at hscan
  rw [parse, Piece.ofText, String.toList_ofList, hscan, Piece.ofSegments, Piece.ofSegments]

/-! ## Pages of one call -/

/-- The text that a call puts into a page. -/
def Call.text (c : Call) : Outcome String :=
  match c.kind, c.result with
  | .helper, .ok v => Html.escape <$> v.display
  | .component, .ok v => v.display
  | _, .error _ => .ok ""

namespace Functions

variable [Attributes] {f : Functions} {scope : Scope} {call : Call}

theorem interpolate_of_helperCall? {e : List Char} (h : f.helperCall? scope e = some call) :
    f.interpolate scope e = ⟨call.failure?.toList, call.text⟩ := by
  unfold helperCall? at h
  unfold interpolate evaluate
  cases hread : Expression.read e with
  | path cs => simp [hread] at h
  | blank => simp [hread] at h
  | call helper arguments =>
      rw [hread] at h
      dsimp only at h ⊢
      cases hrun : f.helpers.get? (String.ofList helper) with
      | none => simp [hrun] at h
      | some run =>
          rw [hrun] at h
          cases h
          dsimp only
          cases run (arguments.map (Argument.evaluate scope.value)) scope with
          | error fault => rfl
          | ok v =>
              unfold Call.text
              rw [pure_bind]
              dsimp only
              cases v.display <;> rfl

theorem expand_of_componentCall? {name : String} {arguments : List Char}
    (h : f.componentCall? scope name arguments = some call) :
    f.expand scope name arguments = ⟨call.failure?.toList, call.text⟩ := by
  unfold componentCall? at h
  unfold expand
  cases hrun : f.components.get? name with
  | none => simp [hrun] at h
  | some run =>
      rw [hrun] at h
      cases h
      dsimp only
      cases run f.helpers (Argument.keywordValues scope.value arguments) scope <;> rfl

end Functions

namespace Engine

variable {e : Engine} {data options : Value} {scope : Scope} {call : Call}

section

variable [Attributes]

/-- Rendering the text as a template calls one function, and the page is what comes of it. -/
def RendersCall (e : Engine) (text : String) (data options : Value) (scope : Scope) (call : Call) :
    Prop :=
  Template.calls e.functions (Template.parse (e.source text)) scope = [call] ∧
    (e.render (.str text) data options).2
      = ⟨(e.scope data options).log ++ call.failure?.toList, call.text⟩

theorem rendersCall_of_singleton {text : String} {n : Node}
    (hscope : (e.scope data options).outcome = .ok scope) (htext : e.templates.get? text = none)
    (hnodes : Template.parse text = [n]) (hcalls : Template.calls e.functions [n] scope = [call])
    (hrender : Template.renderNode e.functions n scope = ⟨call.failure?.toList, call.text⟩) :
    e.RendersCall text data options scope call := by
  have hsource := source_of_get?_eq_none htext
  refine ⟨by rw [hsource, hnodes, hcalls], ?_⟩
  rw [render_str_snd, hsource, hnodes]
  rcases hresult : e.scope data options with ⟨log, fault | found⟩
  · rw [hresult] at hscope
    cases hscope
  · rw [hresult] at hscope
    cases hscope
    rw [Telling.ok_bind, Template.render_singleton, hrender]

/-- A text that is one tag of a variable calls the helper that its expression calls. -/
theorem rendersCall_of_variable {text s : String} {line : Nat}
    (hscope : (e.scope data options).outcome = .ok scope) (htext : e.templates.get? text = none)
    (hnodes : Template.parse text = [.variable s line])
    (hcall : e.functions.helperCall? scope s.toList = some call) :
    e.RendersCall text data options scope call := by
  refine rendersCall_of_singleton hscope htext hnodes ?_ ?_
  · simp [Template.calls, Template.course, Template.courseOf, Visit.call?, hcall]
  · exact Functions.interpolate_of_helperCall? hcall

/-- A text that is one tag of a component calls the component. -/
theorem rendersCall_of_component {text name arguments : String} {line : Nat}
    (hscope : (e.scope data options).outcome = .ok scope) (htext : e.templates.get? text = none)
    (hnodes : Template.parse text = [.component name arguments line])
    (hcall : e.functions.componentCall? scope name arguments.toList = some call) :
    e.RendersCall text data options scope call := by
  refine rendersCall_of_singleton hscope htext hnodes ?_ ?_
  · simp [Template.calls, Template.course, Template.courseOf, Visit.call?, hcall]
  · exact Functions.expand_of_componentCall? hcall

/-- The template that calls a helper with quoted texts. -/
def helperTemplate (name : Text.Word) (qs : List Quotation) : String :=
  String.ofList (Segment.tag (Tag.helperBody name qs)).source

/-- The template that calls a component with quoted texts under keys. -/
def componentTemplate (name : Text.Word) (qs : List KeyedQuotation) : String :=
  String.ofList (Segment.tag (Tag.componentBody name qs)).source

theorem rendersCall_helperTemplate {name : Text.Word} {h : Helper} {qs : List Quotation}
    (hscope : (e.scope data options).outcome = .ok scope) (hqs : qs ≠ [])
    (hname : e.functions.helpers.get? (String.ofList name.chars) = some h)
    (htext : e.templates.get? (helperTemplate name qs) = none) :
    e.RendersCall (helperTemplate name qs) data options scope
      ⟨.helper, String.ofList name.chars, h (qs.map Quotation.value) scope⟩ := by
  have hnodes : Template.parse (helperTemplate name qs)
      = [.variable (String.ofList (Tag.helperBody name qs)) 1] := by
    rw [helperTemplate, Template.parse_tag (Tag.helperBody_ne_nil name qs)
      (Tag.brace_not_mem_helperBody name qs), Tag.read_helperBody name hqs]
    rfl
  have hvalues : (qs.map Quotation.quoted).map (Argument.evaluate scope.value)
      = qs.map Quotation.value := by
    rw [List.map_map]
    exact List.map_congr_left fun q _ => q.evaluate_quoted scope.value
  have hcall : e.functions.helperCall? scope (Tag.helperBody name qs)
      = some ⟨.helper, String.ofList name.chars, h (qs.map Quotation.value) scope⟩ := by
    unfold Functions.helperCall?
    rw [Expression.read_helperBody name hqs]
    dsimp only
    rw [hname, hvalues]
    rfl
  refine rendersCall_of_variable hscope htext hnodes ?_
  rw [String.toList_ofList, hcall]

theorem rendersCall_componentTemplate {name : Text.Word} {c : Component} {qs : List KeyedQuotation}
    (hscope : (e.scope data options).outcome = .ok scope)
    (hkeys : (qs.map fun q => q.key.chars).Nodup)
    (hname : e.functions.components.get? (String.ofList name.chars) = some c)
    (htext : e.templates.get? (componentTemplate name qs) = none) :
    e.RendersCall (componentTemplate name qs) data options scope
      ⟨.component, String.ofList name.chars,
        c e.functions.helpers (KeyedQuotation.entries qs) scope⟩ := by
  have hnodes : Template.parse (componentTemplate name qs)
      = [.component (String.ofList name.chars)
          (String.ofList (Text.trim (qs.flatMap KeyedQuotation.source))) 1] := by
    rw [componentTemplate, Template.parse_tag (Tag.componentBody_ne_nil name qs)
      (Tag.brace_not_mem_componentBody name qs), Tag.read_componentBody]
    rfl
  refine rendersCall_of_component hscope htext hnodes ?_
  rw [String.toList_ofList, Functions.componentCall?, hname,
    KeyedQuotation.keywordValues_sources hkeys]
  rfl

/-- **Quoted arguments reach functions as they are.** A tag with the name of a helper and one or
    more quoted texts calls the helper once, with these texts, and a tag with the name of a component
    and quoted texts under different keys calls the component once, with these texts under their keys,
    in their order. Nothing but this call makes up the page. -/
theorem render_quoted (e : Engine) (data options : Value) {scope : Scope}
    (hscope : (e.scope data options).outcome = .ok scope) (name : Text.Word) :
    (∀ (h : Helper) (qs : List Quotation), qs ≠ [] →
      e.functions.helpers.get? (String.ofList name.chars) = some h →
      e.templates.get? (helperTemplate name qs) = none →
      e.RendersCall (helperTemplate name qs) data options scope
        ⟨.helper, String.ofList name.chars, h (qs.map Quotation.value) scope⟩) ∧
    (∀ (c : Component) (qs : List KeyedQuotation), (qs.map fun q => q.key.chars).Nodup →
      e.functions.components.get? (String.ofList name.chars) = some c →
      e.templates.get? (componentTemplate name qs) = none →
      e.RendersCall (componentTemplate name qs) data options scope
        ⟨.component, String.ofList name.chars,
          c e.functions.helpers (KeyedQuotation.entries qs) scope⟩) :=
  ⟨fun _ _ hqs hname htext => rendersCall_helperTemplate hscope hqs hname htext,
    fun _ _ hkeys hname htext => rendersCall_componentTemplate hscope hkeys hname htext⟩

/-- An engine with a helper and a component that give back what they are given. -/
def echo : Engine :=
  (bare 1 []).registerHelper "echo" (fun arguments _ => .ok (.list arguments))
    |>.registerComponent "echo" fun _ entries _ => .ok (.map entries)

end

/-- Quoted texts may look like parts of a template, and may be empty. -/
theorem render_quoted_markup :
    echo.RendersCall "\x7b\x7becho \"a='b'\" '\x7b\x7b#if \"'\x7d\x7d" .null .null
        (echo.pageScope [] []) ⟨.helper, "echo", .ok (.list [.str "a='b'", .str "\x7b\x7b#if \""])⟩ ∧
      echo.RendersCall "\x7b\x7bcomponent:echo b=\"a='b'\" a=''\x7d\x7d" .null .null
        (echo.pageScope [] [])
        ⟨.component, "echo", .ok (.map [(.str "b", .str "a='b'"), (.str "a", .str "")])⟩ := by
  let q₁ : Quotation :=
    ⟨[' '], '"', "a='b'".toList, Tag.blank_space, by decide, by decide, by decide, by decide⟩
  let q₂ : Quotation :=
    ⟨[' '], '\'', "\x7b\x7b#if \"".toList, Tag.blank_space, by decide, by decide, by decide, by decide⟩
  let q₃ : Quotation := ⟨[' '], '\'', [], Tag.blank_space, by decide, by decide, by decide, by decide⟩
  let name : Text.Word := ⟨"echo".toList, by decide, List.all_eq_true.1 (by decide)⟩
  let k₁ : Text.Word := ⟨['b'], by decide, List.all_eq_true.1 (by decide)⟩
  let k₂ : Text.Word := ⟨['a'], by decide, List.all_eq_true.1 (by decide)⟩
  have hhelper : helperTemplate name [q₁, q₂] = "\x7b\x7becho \"a='b'\" '\x7b\x7b#if \"'\x7d\x7d" := by
    decide +kernel
  have hcomponent : componentTemplate name [⟨q₁, k₁⟩, ⟨q₃, k₂⟩]
      = "\x7b\x7bcomponent:echo b=\"a='b'\" a=''\x7d\x7d" := by
    decide +kernel
  obtain ⟨hcalls, hrenders⟩ := render_quoted echo .null .null rfl name
  constructor
  · rw [← hhelper]
    exact hcalls _ [q₁, q₂] (by simp) rfl rfl
  · rw [← hcomponent]
    exact hrenders _ [⟨q₁, k₁⟩, ⟨q₃, k₂⟩] (by decide) rfl rfl

end Engine

end Stencil
