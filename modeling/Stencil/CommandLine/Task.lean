import Stencil.Card.Site
import Stencil.CommandLine.Request
import Stencil.Config.Loader
import Stencil.Json.Reader
import Stencil.Validation.Basic

set_option autoImplicit false

/-! # Tasks

What the tasks of the command line find out: a rendered page, a report, or both. Files are seen
through a file tree, and what is told on the way is kept as far as it reaches the level that
counts: the one that is asked for, or else the one in the settings. -/

namespace Stencil.CommandLine

/-- Why a task failed. -/
inductive TaskFault where
  | load (f : LoadFault)
  | badJson (message : String)
  | dataNotMapping (path typeName : String)
  | noFile (path : String)
  | noTemplate (name : String)
  | page (f : Fault)
  deriving DecidableEq, Repr

/-- The words for why a task failed. -/
def TaskFault.message : TaskFault → String
  | .load f => f.message
  | .badJson m => m
  | .dataNotMapping p t => "Data file " ++ p ++ " must contain a mapping, got " ++ t
  | .noFile p => "[Errno 2] No such file or directory: " ++ Text.quoted p
  | .noTemplate n => "'" ++ n ++ "' is neither a registered template nor a template file"
  | .page f => f.message

/-- A step of a task. -/
abbrev Step := Telling TaskFault

/-- A computation as a step of a task: only what reaches a level is told. -/
def Step.ofTelling {ε α : Type} (least : Level) (fault : ε → TaskFault) (t : Telling ε α) :
    Step α :=
  ⟨t.log.filter (·.reaches least), t.outcome.mapError fault⟩

/-! ## Parts of tasks -/

variable [Attributes] [Coercions]

/-- The engine where no settings are given. -/
def usualEngine : Engine := (Engine.standard Engine.usualCapacity []).registerSite

/-- The engine of a task, and the least level that is told by it. -/
def engineFor (t : FileTree) (env : Environment) (least : Option Level) :
    Option Location → Step (Engine × Level)
  | none => pure (usualEngine, least.getD .warning)
  | some l => do
    let s ← Step.ofTelling (least.getD .warning) .load (t.loadSettings env true false l)
    let level := least.getD s.logLevel
    let e ← Step.ofTelling level .load (t.buildEngine s)
    return (e, level)

/-- The text of a file that has to be there. -/
def textOf (t : FileTree) (l : Location) : Except TaskFault String :=
  match t.readText l with
  | .ok (some text) => .ok text
  | .ok none => .error (.noFile l.text)
  | .error f => .error (.load f)

/-- What is rendered for a template that is asked for: itself if it is the name of a registered one,
    and else the text of the file that it leads to. -/
def sourceOf (t : FileTree) (e : Engine) (template : String) : Except TaskFault String :=
  if (e.templates.get? template).isSome then .ok template
  else
    match t.find? (.ofText template) with
    | some (.file _) => textOf t (.ofText template)
    | _ => .error (.noTemplate template)

/-- Reads JSON; an empty text is nothing. -/
def readJson (text : Option String) : Except TaskFault Value :=
  match text with
  | none | some "" => .ok .null
  | some text => (Json.parse text).mapError .badJson

/-- The data in a file, which has to hold a mapping or nothing. -/
def dataOf (t : FileTree) : Option Location → Except TaskFault Value
  | none => .ok .null
  | some l => do
    let text ← textOf t l
    let data ←
      if l.namesYaml then (Yaml.read text).mapError fun f => .load (.ofYaml f)
      else (Json.parse text).mapError .badJson
    match data with
    | .null => .ok .null
    | .map es => .ok (.map es)
    | v => .error (.dataNotMapping l.text v.typeName)

/-! ## Tasks -/

/-- The page that is asked for. -/
def RenderRequest.page (t : FileTree) (env : Environment) (least : Option Level)
    (r : RenderRequest) : Step String := do
  let (e, level) ← engineFor t env least r.config
  let source ← .ofOutcome (sourceOf t e r.template)
  let data ← .ofOutcome (dataOf t r.data)
  let options ← .ofOutcome (readJson r.options)
  Step.ofTelling level .page (e.renderText source data options).2

/-- The report that is asked for. -/
def CheckRequest.report (t : FileTree) (env : Environment) (least : Option Level)
    (r : CheckRequest) : Step Report := do
  let (e, _) ← engineFor t env least r.config
  let text ← .ofOutcome (textOf t r.template)
  return e.check r.strictness text [] none

/-- The names in a list with commas. -/
def namesIn (list : String) : List String :=
  if list.isEmpty then []
  else (splitOn ',' list.toList).map fun cs => String.ofList (Text.trim cs)

/-- The report on a template that is tried out, and its page if nothing speaks against it. -/
def TrialRequest.result (least : Option Level) (r : TrialRequest) :
    Step (Report × Option String) := do
  let data ← .ofOutcome (readJson r.data)
  let report := usualEngine.check .standard r.template (namesIn (r.expected.getD "")) none
  if report.isValid then
    let page ← Step.ofTelling (least.getD .warning) .page
      (usualEngine.renderText r.template data .null).2
    return (report, some page)
  else return (report, none)

end Stencil.CommandLine
