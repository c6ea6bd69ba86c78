import Stencil.Engine.Basic
import Stencil.Proofs.Course
import Stencil.Proofs.Simulation

set_option autoImplicit false

/-! # Failures stay where they are

A helper or a component that fails leaves a gap in the page and a notice, and nothing else: a page
is the same with quiet functions, which give nothing where the others fail, and the notices of
errors are one for each call that fails (`render_contained`). -/

namespace Stencil

/-! ## Quiet functions -/

/-- The outcome, with nothing for a value where there is a failure. -/
def orNothing : Outcome Value → Outcome Value
  | .ok v => .ok v
  | .error _ => .ok .null

/-- The helper that gives nothing on the calls on which `h` fails. -/
def Helper.quiet (h : Helper) : Helper := fun arguments scope =>
  orNothing (h arguments scope)

/-- The component that gives nothing on the calls on which `c` fails. -/
def Component.quiet (c : Component) : Component := fun helpers arguments scope =>
  orNothing (c helpers arguments scope)

/-- The component calls none of the helpers that are registered. -/
def Component.IgnoresHelpers (c : Component) : Prop :=
  ∀ helpers helpers' arguments scope, c helpers arguments scope = c helpers' arguments scope

/-- The functions, with quiet ones in their places. -/
def Functions.quiet (f : Functions) : Functions :=
  ⟨f.helpers.mapValues Helper.quiet, f.components.mapValues Component.quiet⟩

/-- The engine with quiet functions in the places of its own. -/
def Engine.quiet (e : Engine) : Engine :=
  { e with functions := e.functions.quiet }

/-- All notices but those of errors. -/
def Notice.isNoError (n : Notice) : Bool :=
  n.level ≠ .error

/-! ## Tags -/

namespace Functions

variable [Attributes] (f : Functions) (scope : Scope)

/-- An expression has the same value with quiet helpers, and no error is told. -/
theorem evaluate_quiet (e : List Char) :
    f.quiet.evaluate scope e = (f.evaluate scope e).filterLog Notice.isNoError := by
  have hget (name : String) : f.quiet.helpers.get? name = (f.helpers.get? name).map Helper.quiet :=
    Registry.get?_mapValues _ _ _
  unfold evaluate
  cases Expression.read e with
  | path cs => rfl
  | blank => rfl
  | call helper arguments =>
      simp only [hget]
      cases f.helpers.get? (String.ofList helper) with
      | none => rfl
      | some run =>
          simp only [Option.map_some, Helper.quiet]
          cases run (arguments.map (Argument.evaluate scope.value)) scope <;> rfl

/-- A component tag has the same text with a quiet component, and no error is told. -/
theorem expand_quiet {name : String}
    (h : ∀ c, f.components.get? name = some c → Component.IgnoresHelpers c) (arguments : List Char) :
    f.quiet.expand scope name arguments
      = (f.expand scope name arguments).filterLog Notice.isNoError := by
  have hget : f.quiet.components.get? name = (f.components.get? name).map Component.quiet :=
    Registry.get?_mapValues _ _ _
  unfold expand
  rw [hget]
  cases hc : f.components.get? name with
  | none => rfl
  | some run =>
      have hrun := h run hc f.quiet.helpers f.helpers
        (Argument.keywordValues scope.value arguments) scope
      simp only [Option.map_some, Component.quiet, hrun]
      cases run f.helpers (Argument.keywordValues scope.value arguments) scope with
      | error fault => rfl
      | ok v => exact (Telling.filterLog_ofOutcome _ _).symm

end Functions

/-! ## Pages -/

section

variable [Attributes]

/-- A template has the same text with quiet functions, and no error is told. -/
theorem Template.render_quiet {f : Functions}
    (h : ∀ name c, f.components.get? name = some c → Component.IgnoresHelpers c) (nodes : Template)
    (scope : Scope) :
    render f.quiet nodes scope = (render f nodes scope).filterLog Notice.isNoError := by
  -- The scopes of both renders are the same throughout.
  refine render_filterLog (R := Eq) (fun s t item i n hst => by rw [hst])
    (fun n _ s t hst => ?_) rfl
  subst hst
  rcases n with x | ⟨e, line⟩ | ⟨name, arguments, line⟩ | ⟨_ | _, subject, line, body⟩
  · trivial
  · exact f.evaluate_quiet s e.toList
  · exact f.expand_quiet s (h name) arguments.toList
  · exact f.evaluate_quiet s subject.toList
  · rfl

end

namespace Engine

/-- The names of functions are all that a scope knows of them. -/
theorem pageScope_quiet (e : Engine) (data options : Entries) :
    e.quiet.pageScope data options = e.pageScope data options := by
  have hhelpers : e.quiet.functions.helpers.names = e.functions.helpers.names :=
    Registry.names_mapValues _ _
  have hcomponents : e.quiet.functions.components.names = e.functions.components.names :=
    Registry.names_mapValues _ _
  simp only [pageScope, Scope.root, Scope.registered, hhelpers, hcomponents]
  rfl

section

variable [Attributes]

/-- **Failures stay at the tags that fail.** Whatever helpers and components do, a page with a
    mapping for its data and one for its options is rendered, as long as it shows no integer that is
    too long to be written. It is the page that quiet functions make, which tell the same but for the
    errors, and there is one error for each call that fails and no other. Components may not use the
    helpers of the engine themselves. -/
theorem render_contained (e : Engine) (template : String) (data options : Entries)
    (hcomponents : ∀ name c, e.functions.components.get? name = some c →
      Component.IgnoresHelpers c)
    (hshown : ∀ v ∈ Template.shownValues e.functions (Template.parse (e.source template))
        (e.pageScope data options), v.isTooLong = false) :
    let page := (e.render (.str template) (.map data) (.map options)).2
    let quiet := (e.quiet.render (.str template) (.map data) (.map options)).2
    (∃ text, page.outcome = .ok text ∧ quiet.outcome = .ok text) ∧
    quiet.log = page.log.filter Notice.isNoError ∧
    (page.log.filter (·.level = .error)).Perm
      ((Template.calls e.functions (Template.parse (e.source template))
        (e.pageScope data options)).filterMap Call.failure?) := by
  intro page quiet
  have hpage : page = Template.render e.functions (Template.parse (e.source template))
      (e.pageScope data options) :=
    congrArg (·.2) (e.renderText_map_of_ok template data (optionEntries_map options))
  have hquiet : quiet = page.filterLog Notice.isNoError := by
    have h : quiet = Template.render e.functions.quiet (Template.parse (e.source template))
        (e.quiet.pageScope data options) :=
      congrArg (·.2) (e.quiet.renderText_map_of_ok template data (optionEntries_map options))
    rw [h, pageScope_quiet, Template.render_quiet hcomponents, hpage]
  have hread := Template.readable_parse (e.source template)
  obtain ⟨text, htext⟩ := Template.render_ok hread hshown
  rw [← hpage] at htext
  refine ⟨⟨text, htext, by rw [hquiet]; exact htext⟩, by rw [hquiet]; rfl, ?_⟩
  rw [hpage] at htext ⊢
  exact Template.failures_of_render_ok hread htext

end

/-- A helper and a component that always fail, in a condition, in a loop and by themselves. -/
theorem render_contained_failing :
    let fault := Fault.raised "ValueError" "no"
    let e := ((bare 1 []).registerHelper "boom" fun _ _ => .error fault).registerComponent "bad"
      fun _ _ _ => .error fault
    let template := String.ofList (Template.printed [
      .text "a", .block .conditional "boom 1" 1 [.text "b"],
      .block .loop "xs" 1 [.variable "boom this" 1], .component "bad" "" 1, .variable "n" 1])
    let data := Entries.ofFields [("xs", .list [.int 1, .int 2]), ("n", .int 7)]
    let page := (e.render (.str template) (.map data) (.map [])).2
    let quiet := (e.quiet.render (.str template) (.map data) (.map [])).2
    (∀ name c, e.functions.components.get? name = some c → Component.IgnoresHelpers c) ∧
    (∀ v ∈ Template.shownValues e.functions (Template.parse (e.source template))
      (e.pageScope data []), v.isTooLong = false) ∧
    (∃ text, page.outcome = .ok text ∧ quiet.outcome = .ok text) ∧
    quiet.log = page.log.filter Notice.isNoError ∧
    (page.log.filter (·.level = .error)).Perm
      ((Template.calls e.functions (Template.parse (e.source template))
        (e.pageScope data [])).filterMap Call.failure?) := by
  intro fault e template data page quiet
  have hcomponents : ∀ name c, e.functions.components.get? name = some c →
      Component.IgnoresHelpers c := by
    intro name c hc
    have hbad : (name, c) = ("bad", fun _ _ _ => .error fault) :=
      List.mem_singleton.1 (Registry.mem_of_get? hc)
    cases hbad
    exact fun _ _ _ _ => rfl
  have hshown : ∀ v ∈ Template.shownValues e.functions (Template.parse (e.source template))
      (e.pageScope data []), v.isTooLong = false := by
    decide +kernel
  exact ⟨hcomponents, hshown, render_contained e template data [] hcomponents hshown⟩

end Engine

end Stencil
