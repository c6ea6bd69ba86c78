import Stencil.Card.Site
import Stencil.Proofs.Lookup
import Stencil.Proofs.Simulation

set_option autoImplicit false

/-! # What a page depends on

A page depends on its data through the names that `Engine.extractVariables` finds in the template,
and through the names that are never data names: those that loops bind, the reserved ones and the
empty one. `render_eq_of_extractVariables` says so for all engines whose functions take no notice of
the scope that they are called in. -/

namespace Stencil

/-! ## Functions that take no notice of their scope -/

/-- Whether no registered helper reads the scope that it is called in. -/
def Registry.IgnoresScope (helpers : Registry Helper) : Prop :=
  ∀ name h, helpers.get? name = some h → ∀ arguments s t, h arguments s = h arguments t

/-- No registered function reads the scope that it is called in. A component may hand it on to the
    registered helpers. -/
structure Functions.IgnoreScope (f : Functions) : Prop where
  helpers : f.helpers.IgnoresScope
  components : ∀ name c, f.components.get? name = some c →
    ∀ arguments s t, c f.helpers arguments s = c f.helpers arguments t

/-- The helpers of the library take no notice of their scope. -/
theorem Builtin.ignoresScope_registry : Builtin.registry.IgnoresScope := by
  intro name h hget arguments s t
  obtain ⟨b, -, hb⟩ := List.mem_map.1 (Registry.mem_of_get? hget)
  cases hb
  rfl

namespace Card

/-- What a card's filters call gives the same in two scopes, where the registered helpers may differ
    as well. -/
def CallsAlike (helpers helpers' : Registry Helper) (s t : Scope) : Prop :=
  ∀ (b : Builtin) (arguments : List Value),
    ((helpers.get? b.name).getD b.helper) arguments s
      = ((helpers'.get? b.name).getD b.helper) arguments t

variable {helpers helpers' : Registry Helper} {s t : Scope}

/-- Calls are alike if the helpers take no notice of their scope. -/
theorem callsAlike_of_ignoresScope (hh : helpers.IgnoresScope) (s t : Scope) :
    CallsAlike helpers helpers s t := by
  intro b arguments
  cases hget : helpers.get? b.name with
  | none => rfl
  | some h => exact hh _ h hget arguments s t

theorem Filter.apply_congr (hc : CallsAlike helpers helpers' s t) (v : Value) (f : Filter) :
    f.apply helpers s v = f.apply helpers' t v := by
  cases f with
  | helper b arguments => exact hc b (v :: arguments)
  | replaceFirst old new => rfl
  | join separator => rfl

theorem Term.evaluate_congr [Attributes] (hc : CallsAlike helpers helpers' s t)
    (record item : Value) :
    ∀ term : Term,
      term.evaluate ⟨helpers, s, record, item⟩ = term.evaluate ⟨helpers', t, record, item⟩
  | .field _ => rfl
  | .item => rfl
  | .text _ => rfl
  | .orElse a b => by
      rw [evaluate, evaluate, evaluate_congr hc record item a, evaluate_congr hc record item b]
  | .filtered a f => by
      rw [evaluate, evaluate, evaluate_congr hc record item a]
      exact bind_congr fun v => Filter.apply_congr hc v f

mutual

theorem renderPart_congr [Attributes] (hc : CallsAlike helpers helpers' s t) (record : Value) :
    ∀ (p : Part) (item : Value),
      renderPart ⟨helpers, s, record, item⟩ p = renderPart ⟨helpers', t, record, item⟩ p
  | .markup _, item => by rw [renderPart, renderPart]
  | .print term, item => by rw [renderPart, renderPart, Term.evaluate_congr hc]
  | .when term parts, item => by
      rw [renderPart, renderPart, Term.evaluate_congr hc, renderParts_congr hc record parts item]
  | .forEach term parts, item => by
      have hitems : (fun x => renderParts ⟨helpers, s, record, x⟩ parts)
          = fun x => renderParts ⟨helpers', t, record, x⟩ parts :=
        funext fun x => renderParts_congr hc record parts x
      simp only [renderPart, Term.evaluate_congr hc, hitems]

theorem renderParts_congr [Attributes] (hc : CallsAlike helpers helpers' s t) (record : Value) :
    ∀ (ps : List Part) (item : Value),
      renderParts ⟨helpers, s, record, item⟩ ps = renderParts ⟨helpers', t, record, item⟩ ps
  | [], item => by rw [renderParts, renderParts]
  | p :: ps, item => by
      rw [renderParts, renderParts, renderPart_congr hc record p item,
        renderParts_congr hc record ps item]

end

/-- A card depends on its scope and on the helpers through the calls of its filters. -/
theorem component_congr [Attributes] (hc : CallsAlike helpers helpers' s t) (c : Card)
    (arguments : Entries) :
    c.component helpers arguments s = c.component helpers' arguments t := by
  unfold component
  cases arguments.field? c.argument with
  | none => rfl
  | some record => simp only [renderParts_congr hc]

end Card

/-- The helpers of the library and the cards of the site take no notice of their scope. -/
theorem Engine.ignoreScope_registerSite [Attributes] (capacity : Int) (options : Entries) :
    (standard capacity options).registerSite.functions.IgnoreScope where
  helpers := Builtin.ignoresScope_registry
  components := by
    intro name c hget arguments s t
    have hcomponents : (standard capacity options).registerSite.functions.components
        = Card.site.map fun card => (card.name, card.component) := rfl
    rw [hcomponents] at hget
    obtain ⟨card, -, hcard⟩ := List.mem_map.1 (Registry.mem_of_get? hget)
    cases hcard
    exact Card.component_congr (Card.callsAlike_of_ignoresScope Builtin.ignoresScope_registry s t)
      card arguments

/-! ## Tags -/

namespace Functions

variable {f : Functions} {names : String → Prop} {s t : Scope}

/-- The value of an expression depends on the first segments of its paths. -/
theorem evaluate_eq_of_agreeOn [Attributes] (hf : f.IgnoreScope) (h : s.AgreeOn names t)
    {e : List Char} (hroot : ∀ path ∈ (Expression.read e).paths, names (Path.root path)) :
    f.evaluate s e = f.evaluate t e := by
  unfold evaluate
  cases hread : Expression.read e with
  | path cs =>
      rw [hread] at hroot
      have hcs := Path.resolve_eq_of_agreeOn h (hroot cs (List.mem_singleton_self cs))
      simp only [hcs]
  | blank => rfl
  | call helper arguments =>
      rw [hread] at hroot
      have hvalues : arguments.map (Argument.evaluate s.value)
          = arguments.map (Argument.evaluate t.value) :=
        List.map_congr_left fun token htoken => Argument.evaluate_eq_of_agreeOn h fun hp =>
          hroot token (List.mem_filter.2 ⟨htoken, hp⟩)
      dsimp only
      cases hget : f.helpers.get? (String.ofList helper) with
      | none => rfl
      | some run =>
          have hrun := hf.helpers _ run hget (arguments.map (Argument.evaluate t.value)) s t
          simp only [hvalues, hrun]

/-- The text of a component depends on the first segments of the paths among its arguments. -/
theorem expand_eq_of_agreeOn [Attributes] (hf : f.IgnoreScope) (h : s.AgreeOn names t)
    {name : String} {arguments : List Char}
    (hroot : ∀ token ∈ ((Expression.keywords arguments).map (·.2)).filter Argument.isPath,
      names (Path.root token)) :
    f.expand s name arguments = f.expand t name arguments := by
  unfold expand
  cases hget : f.components.get? name with
  | none => rfl
  | some run =>
      have hvalues := Argument.keywordValues_eq_of_agreeOn h hroot
      simp only [hvalues, hf.components name run hget _ s t]

end Functions

/-- A tag does the same in scopes that agree on the first segments of its paths. -/
theorem Node.actsAlike_of_agreeOn [Attributes] {f : Functions} {names : String → Prop} {s t : Scope}
    (hf : f.IgnoreScope) (h : s.AgreeOn names t) (n : Node)
    (hroot : ∀ path ∈ n.paths, names (Path.root path)) :
    n.ActsAlike (fun _ => true) f f s t := by
  rcases n with x | ⟨e, line⟩ | ⟨name, arguments, line⟩ | ⟨_ | _, subject, line, body⟩
  · trivial
  · rw [ActsAlike, Telling.filterLog_true, Functions.evaluate_eq_of_agreeOn hf h hroot]
  · rw [ActsAlike, Telling.filterLog_true, Functions.expand_eq_of_agreeOn hf h hroot]
  · rw [ActsAlike, Telling.filterLog_true, Functions.evaluate_eq_of_agreeOn hf h hroot]
  · rw [ActsAlike, Scope.loopItems_eq_of_agreeOn h (hroot _ (List.mem_singleton_self _))]

/-! ## Templates -/

namespace Template

/-- The first segment of a path in a template is the name of data that it looks up, or else no name
    for data at all. -/
theorem mem_dataNames_of_mem_paths {nodes : Template} {n : Node} {path : List Char}
    (hn : n ∈ walk nodes) (hpath : path ∈ n.paths) :
    Path.root path ∈ dataNames nodes ∨ isDataName (Path.root path) = false := by
  cases h : isDataName (Path.root path) with
  | false => exact Or.inr rfl
  | true =>
      left
      rw [dataNames, mem_sortedDistinct]
      exact List.mem_filter.2
        ⟨List.mem_map_of_mem (List.mem_flatMap.2 ⟨n, hn, hpath⟩), h⟩

/-- A template gives the same in scopes that agree on the names of the data that it looks up and on
    all that are no names for data. -/
theorem render_eq_of_agreeOn [Attributes] {f : Functions} (hf : f.IgnoreScope) {nodes : Template}
    {s t : Scope} (h : s.AgreeOn (fun name => name ∈ dataNames nodes ∨ isDataName name = false) t) :
    render f nodes s = render f nodes t := by
  have halike : render f nodes t = (render f nodes s).filterLog fun _ => true :=
    render_filterLog (fun _ _ item i n h => h.atItem item i n)
      (fun n hn _ _ h => n.actsAlike_of_agreeOn hf h fun _ => mem_dataNames_of_mem_paths hn) h
  rw [halike, Telling.filterLog_true]

/-- A name that is none for data is bound by loops, empty or reserved. -/
theorem isDataName_eq_false {name : String} :
    isDataName name = false ↔
      name ∈ Scope.loopNames ∨ name = "" ∨ name.toList.head? = some '$' := by
  simp only [isDataName, Bool.and_eq_false_iff, Bool.not_eq_false', String.isEmpty_iff,
    List.contains_iff_mem, bne_eq_false_iff_eq]
  tauto

end Template

/-! ## Engines -/

namespace Engine

/-- **A page depends on nothing but the variables of its template**, and on the names that loops
    bind, the empty name and the reserved names: two data that give the same to each of these, where
    nothing counts as no value, make the same page with the same notices, whatever else they hold.

    The same value has the same attributes, whichever these are. So values are the same here as one
    object is: a method of two objects that are only equal would be written with two places in
    memory. -/
theorem render_eq_of_extractVariables [Attributes] (e : Engine) (text : String) (options : Value)
    (data data' : Entries) (hname : e.templates.get? text = none) (hf : e.functions.IgnoreScope)
    (hdata : ∀ name, name ∈ extractVariables text ∨ name ∈ Scope.loopNames ∨ name = "" ∨
        name.toList.head? = some '$' →
      (data.field? name).getD .null = (data'.field? name).getD .null) :
    e.render (.str text) (.map data) options = e.render (.str text) (.map data') options := by
  have hsource : e.source text = text := by rw [source, hname, Option.getD_none]
  have hagree : Scope.AgreeOn
      (fun name => name ∈ Template.dataNames (Template.parse text) ∨
        Template.isDataName name = false) ⟨data⟩ ⟨data'⟩ := by
    intro name hn
    rw [Template.isDataName_eq_false] at hn
    exact hdata name hn
  rw [render, render]
  cases hoptions : optionEntries options with
  | error fault =>
      rw [renderText_map_of_error e text data hoptions,
        renderText_map_of_error e text data' hoptions]
  | ok entries =>
      rw [renderText_map_of_ok e text data hoptions, renderText_map_of_ok e text data' hoptions,
        hsource]
      have hpage := hagree.root e.functions.helpers e.functions.components
        (e.defaultOptions.update entries)
      rw [pageScope, pageScope, Template.render_eq_of_agreeOn hf hpage]

/-- The template shows the items of a loop and a card; a note in the data makes no difference. -/
theorem render_unread_note :
    let e := (standard 2 []).registerSite
    let text := String.ofList (Template.printed [
      .block .loop "items" 1 [.block .conditional "this.ok" 1 [.variable "upper this" 1]],
      .component "meetingCard" "meeting=m" 1])
    let shown := Entries.ofFields [
      ("items", .list [.map (Entries.ofFields [("ok", .bool true)]), .null]),
      ("m", .map (Entries.ofFields [("title", .str "b")]))]
    let data := shown.insert (.str "note") (.str "c")
    e.templates.get? text = none ∧ e.functions.IgnoreScope ∧
    (∀ name, name ∈ extractVariables text ∨ name ∈ Scope.loopNames ∨ name = "" ∨
        name.toList.head? = some '$' →
      (shown.field? name).getD .null = (data.field? name).getD .null) ∧
    e.render (.str text) (.map shown) .null = e.render (.str text) (.map data) .null := by
  intro e text shown data
  have hnote : "note" ∉ extractVariables text := by
    rw [extractVariables, Template.dataNames, mem_sortedDistinct]
    decide +kernel
  have hdata : ∀ name, name ∈ extractVariables text ∨ name ∈ Scope.loopNames ∨ name = "" ∨
        name.toList.head? = some '$' →
      (shown.field? name).getD .null = (data.field? name).getD .null := by
    intro name hname
    have hne : name ≠ "note" := by
      rintro rfl
      rcases hname with h | h
      · exact hnote h
      · revert h
        decide
    rw [Entries.field?_insert, if_neg hne]
  have hf : e.functions.IgnoreScope := ignoreScope_registerSite 2 []
  exact ⟨rfl, hf, hdata, render_eq_of_extractVariables e text .null shown data rfl hf hdata⟩

end Engine

end Stencil
