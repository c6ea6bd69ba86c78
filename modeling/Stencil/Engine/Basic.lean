import Stencil.Engine.Cache
import Stencil.Helper.Builtins
import Stencil.Render.Staged
import Stencil.Template.Variables

set_option autoImplicit false

/-! # Engines

An engine knows templates, helpers and components by name, and the options that every render starts
from. Rendering may fill the engine's cache of parsed templates and changes nothing else. -/

namespace Stencil

/-- What a site is rendered with. -/
structure Engine where
  templates : Registry String
  functions : Functions
  defaultOptions : Entries
  cache : Cache

/-- What keeps a text from being a template. -/
inductive TemplateFault where
  | blank
  | imbalance (i : Imbalance)
  deriving DecidableEq, Repr

/-- The words for what keeps a text from being a template. -/
def TemplateFault.message : TemplateFault → String
  | .blank => "Template cannot be empty"
  | .imbalance i => "Syntax error at line " ++ toString i.line ++ ": " ++ i.detail

namespace Template

/-- What keeps a text from being a template, if anything does. -/
def fault? (text : String) : Option TemplateFault :=
  if Text.trim text.toList = [] then some .blank
  else
    match parseStrict text with
    | .ok _ => none
    | .error i => some (.imbalance i)

end Template

namespace Engine

/-! ## Building -/

/-- An engine that knows nothing by name. -/
def bare (capacity : Int) (defaultOptions : Entries) : Engine :=
  ⟨[], ⟨[], []⟩, defaultOptions, .empty capacity⟩

/-- An engine that knows the helpers of the library. -/
def standard (capacity : Int) (defaultOptions : Entries) : Engine :=
  { bare capacity defaultOptions with functions := ⟨Builtin.registry, []⟩ }

/-- The number of templates that an engine keeps unless another one is asked for. -/
def usualCapacity : Int := 128

/-- The engine with a template under a name. -/
def registerTemplate (e : Engine) (name text : String) : Engine :=
  { e with templates := e.templates.insert name text }

/-- The engine with a helper under a name. -/
def registerHelper (e : Engine) (name : String) (h : Helper) : Engine :=
  { e with functions := { e.functions with helpers := e.functions.helpers.insert name h } }

/-- The engine with a component under a name. -/
def registerComponent (e : Engine) (name : String) (c : Component) : Engine :=
  { e with functions := { e.functions with components := e.functions.components.insert name c } }

/-! ## Scopes -/

/-- The form as a mapping that an object claims to have. -/
def claimedForm? : Value → Option Value
  | .record fs => fs.lookup "model_dump"
  | _ => none

/-- The data of a page. What is no mapping is ignored and told, except that an object which claims
    to have a form as a mapping must give it. -/
def dataEntries : Value → Traced Entries
  | .null => pure []
  | .map es => pure es
  | v =>
    match claimedForm? v with
    | some form => .fail (.notCallable form.qualifiedTypeName)
    | none => do
      Telling.tell (.dataIgnored v.typeName)
      return []

/-- The options of a render. -/
def optionEntries (v : Value) : Outcome Entries :=
  if v.holds then
    match v with
    | .map es => .ok es
    | v => .error (.optionsNotMapping v.qualifiedTypeName)
  else .ok []

theorem optionEntries_map (options : Entries) : optionEntries (.map options) = .ok options := by
  cases options <;> rfl

/-- The scope of a page with some data. The options of the render are written over those of the
    engine. -/
def pageScope (e : Engine) (data options : Entries) : Scope :=
  .root data e.functions.helpers e.functions.components (e.defaultOptions.update options)

/-- The scope of a page with what is given as its data and options. -/
def scope (e : Engine) (data options : Value) : Traced Scope := do
  let data ← dataEntries data
  let options ← .ofOutcome (optionEntries options)
  return e.pageScope data options

/-! ## Rendering -/

/-- The template that a text is, and the engine once it is known. -/
def compile (e : Engine) (text : String) : Engine × Template :=
  let (cache, nodes) := e.cache.parse text
  ({ e with cache := cache }, nodes)

@[simp] theorem compile_snd (e : Engine) (text : String) :
    (e.compile text).2 = Template.parse text :=
  e.cache.parse_snd text

/-- The text that a name or a template stands for: that of the registered template, if there is
    one. -/
def source (e : Engine) (template : String) : String :=
  (e.templates.get? template).getD template

theorem source_of_get?_eq_none {e : Engine} {template : String}
    (h : e.templates.get? template = none) : e.source template = template := by
  rw [source, h]
  rfl

variable [Attributes]

/-- The text of a template in a scope. -/
def process (e : Engine) (text : String) (scope : Scope) : Engine × Traced String :=
  let (e, nodes) := e.compile text
  (e, Template.render e.functions nodes scope)

/-- Rendering a text fills the cache and goes by the template that the text is. -/
theorem process_eq (e : Engine) (text : String) (scope : Scope) :
    e.process text scope
      = ((e.compile text).1, Template.render e.functions (Template.parse text) scope) := by
  rw [← compile_snd e text]
  rfl

/-- Renders a registered template or a text with some data. -/
def renderText (e : Engine) (template : String) (data options : Value) : Engine × Traced String :=
  let s := e.scope data options
  match s.outcome with
  | .error fault => (e, ⟨s.log, .error fault⟩)
  | .ok scope =>
    let (e, t) := e.process (e.source template) scope
    (e, ⟨s.log ++ t.log, t.outcome⟩)

/-- A page with a mapping for its data has the text that its template has in the scope of the
    page. -/
theorem renderText_map_of_ok (e : Engine) (template : String) (data : Entries) {options : Value}
    {entries : Entries} (h : optionEntries options = .ok entries) :
    e.renderText template (.map data) options
      = ((e.compile (e.source template)).1,
          Template.render e.functions (Template.parse (e.source template))
            (e.pageScope data entries)) := by
  have hscope : e.scope (.map data) options = pure (e.pageScope data entries) := by
    rw [scope, h]
    rfl
  simp only [renderText, hscope, process_eq, Telling.pure_def, List.nil_append]

/-- Without proper options there is no page. -/
theorem renderText_map_of_error (e : Engine) (template : String) (data : Entries) {options : Value}
    {fault : Fault} (h : optionEntries options = .error fault) :
    e.renderText template (.map data) options = (e, .fail fault) := by
  have hscope : e.scope (.map data) options = .fail fault := by
    rw [scope, h]
    rfl
  rw [renderText, hscope]
  rfl

/-- Renders what a value stands for, which has to be a text. -/
def render (e : Engine) (template data options : Value) : Engine × Traced String :=
  match template with
  | .str s => e.renderText s data options
  | v => (e, .fail (.templateNotText v.typeName))

/-- Rendering a text with some data is finding the scope of the page and then the text that the
    template has in it. -/
theorem render_str_snd (e : Engine) (template : String) (data options : Value) :
    (e.render (.str template) data options).2
      = e.scope data options >>= Template.render e.functions (Template.parse (e.source template)) := by
  rw [render, renderText]
  rcases e.scope data options with ⟨log, fault | scope⟩
  · rfl
  · simp only [process_eq, Telling.ok_bind]

/-- The value of an expression in the scope of a page. -/
def evaluate (e : Engine) (expression : String) (data options : Value) : Traced Value := do
  let scope ← e.scope data options
  e.functions.evaluate scope expression.toList

/-- The names of the data that a text looks up as a template. -/
def extractVariables (text : String) : List String :=
  Template.dataNames (Template.parse text)

end Engine

end Stencil
