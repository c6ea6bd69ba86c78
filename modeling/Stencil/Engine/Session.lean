import Stencil.Card.Site
import Stencil.Engine.Batch
import Stencil.Validation.Basic

set_option autoImplicit false

/-! # Sessions

One engine is asked for things one after the other. Registering changes what it knows, rendering may
fill its cache; each operation is answered. -/

namespace Stencil

/-- Something that an engine is asked for. -/
inductive Operation where
  | registerTemplate (name text : String)
  | registerHelper (name : String) (h : Helper)
  | registerComponent (name : String) (c : Component)
  | registerSite
  /-- The names that are registered. -/
  | names
  /-- The text of a registered template. -/
  | registered (name : String)
  | compile (text : String)
  | render (template data options : Value)
  | evaluate (expression : String) (data options : Value)
  | extractVariables (text : String)
  | validate (text : String)
  | check (strictness : Strictness) (text : String) (expected : List String) (limit : Option Int)
  | batch (logging : Logging) (template : Value) (pages : List Value) (options : Value)
      (listener : Option ProgressListener)

/-- What an engine answers. -/
inductive Answer where
  | done
  | names (templates helpers components : List String)
  | registered (text : Option String)
  | nodes (nodes : Template)
  | page (page : Traced String)
  | value (value : Traced Value)
  | variables (names : List String)
  | fault (fault : Option TemplateFault)
  | report (report : Report)
  | batch (logging : Logging) (log : List Notice) (calls : List Nat)
      (outcome : Outcome BatchReport)

namespace Engine

/-- Does what an engine is asked for. -/
def perform [Attributes] (e : Engine) : Operation → Engine × Answer
  | .registerTemplate name text => (e.registerTemplate name text, .done)
  | .registerHelper name h => (e.registerHelper name h, .done)
  | .registerComponent name c => (e.registerComponent name c, .done)
  | .registerSite => (e.registerSite, .done)
  | .names => (e, .names e.templates.names e.functions.helpers.names e.functions.components.names)
  | .registered name => (e, .registered (e.templates.get? name))
  | .compile text => ((e.compile text).1, .nodes (e.compile text).2)
  | .render template data options =>
    ((e.render template data options).1, .page (e.render template data options).2)
  | .evaluate expression data options => (e, .value (e.evaluate expression data options))
  | .extractVariables text => (e, .variables (extractVariables text))
  | .validate text => (e, .fault (Template.fault? text))
  | .check strictness text expected limit => (e, .report (e.check strictness text expected limit))
  | .batch logging template pages options listener =>
    let r := e.renderBatch logging template pages options listener
    (r.engine, .batch r.logging r.log r.calls r.outcome)

/-- Does what an engine is asked for, one thing after the other. -/
def run [Attributes] (e : Engine) : List Operation → Engine × List Answer
  | [] => (e, [])
  | op :: ops =>
    let (e, answer) := e.perform op
    let (e, answers) := e.run ops
    (e, answer :: answers)

end Engine

end Stencil
