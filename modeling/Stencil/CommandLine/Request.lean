import Stencil.CommandLine.Usage
import Stencil.Render.Notice
import Stencil.Validation.Report

set_option autoImplicit false

/-! # Requests

What a command line asks for. -/

namespace Stencil.CommandLine

/-! ## Requests -/

/-- To render a template. -/
structure RenderRequest where
  /-- The name of a registered template, or the path of a file. -/
  template : String
  data : Option Location
  config : Option Location
  output : Option Location
  options : Option String
  deriving DecidableEq, Repr

/-- To check a template. -/
structure CheckRequest where
  template : Location
  strictness : Strictness
  asJson : Bool
  config : Option Location
  deriving DecidableEq, Repr

/-- To check and render a template that stands on the command line. -/
structure TrialRequest where
  template : String
  data : Option String
  /-- The names of the data that the template may look up, with commas between them. -/
  expected : Option String
  deriving DecidableEq, Repr

/-- What is to be done. -/
inductive Task where
  | render (r : RenderRequest)
  | check (r : CheckRequest)
  | trial (r : TrialRequest)
  | listHelpers
  deriving DecidableEq, Repr

/-- What a command line asks for. -/
inductive Request where
  | help (c : Command)
  | version
  /-- To do something, where only what reaches a level is told if one is given. -/
  | perform (least : Option Level) (task : Task)
  deriving DecidableEq, Repr

/-- The file with settings that a task uses. -/
def Task.config? : Task → Option Location
  | .render r => r.config
  | .check r => r.config
  | _ => none

/-! ## Commands -/

namespace Command

/-- The name of the program. -/
def program : String := "minibars"

/-- The program. -/
def root : Command :=
  { words := [program]
    flags := ["--version", "--help"]
    options := [⟨"--log-level", .choice ["debug", "info", "warning", "error"] true⟩]
    operand := .command ["template"] }

/-- The commands on templates. -/
def group : Command :=
  { words := [program, "template"]
    flags := ["--help"]
    options := []
    operand := .command ["render", "validate", "test", "helpers"] }

/-- A command on templates. -/
def leaf (name : String) (options : List Parameter) (operand : Operand) : Command :=
  { words := [program, "template", name]
    flags := ["--help"]
    options := options
    operand := operand }

/-- The command that renders a template. -/
def render : Command :=
  leaf "render"
    [⟨"--data", .existingPath⟩, ⟨"--config", .existingPath⟩, ⟨"--output", .any⟩,
      ⟨"--options", .any⟩]
    (.argument ⟨"TEMPLATE", .any⟩)

/-- The command that checks the template in a file. -/
def check : Command :=
  leaf "validate"
    [⟨"--level", .choice ["permissive", "standard", "strict"] false⟩,
      ⟨"--format", .choice ["text", "json"] false⟩, ⟨"--config", .existingPath⟩]
    (.argument ⟨"TEMPLATE_PATH", .existingPath⟩)

/-- The command that tries a template out. -/
def trial : Command :=
  leaf "test" [⟨"--context", .any⟩, ⟨"--variables", .any⟩] (.argument ⟨"TEMPLATE_STRING", .any⟩)

/-- The command that lists helpers and components. -/
def listHelpers : Command := leaf "helpers" [] .nothing

/-- The command on templates with a name. -/
def leafOf : String → Command
  | "render" => render
  | "validate" => check
  | "test" => trial
  | _ => listHelpers

end Command

/-! ## Reading -/

/-- A refused command line: the command at which it is refused, and why. -/
structure UsageError where
  command : Command
  fault : UsageFault
  deriving DecidableEq, Repr

namespace Request

/-- Reads the words after a command. The first flag is all that is done. -/
def readAt (t : FileTree) (c : Command) (ws : List String)
    (next : List (String × String) → List String → Except UsageError Request) :
    Except UsageError Request := do
  let words ← (c.read t ws).mapError (UsageError.mk c)
  match words.flags with
  | "--version" :: _ => return .version
  | _ :: _ => return .help c
  | [] => next words.options words.operands

/-- The task of a command on templates. -/
def taskOf (name : String) (given : List (String × String)) (argument : String) : Task :=
  let option? := Command.option? given
  let location? (option : String) : Option Location := (option? option).map Location.ofText
  match name with
  | "render" =>
    .render {
      template := argument
      data := location? "--data"
      config := location? "--config"
      output := location? "--output"
      options := option? "--options" }
  | "validate" =>
    .check {
      template := .ofText argument
      strictness := ((option? "--level").bind Strictness.ofName?).getD .standard
      asJson := option? "--format" == some "json"
      config := location? "--config" }
  | "test" =>
    .trial {
      template := argument
      data := option? "--context"
      expected := option? "--variables" }
  | _ => .listHelpers

/-- Reads a command line. -/
def read (t : FileTree) (ws : List String) : Except UsageError Request :=
  readAt t .root ws fun given ws =>
    let least := (Command.option? given "--log-level").bind fun v =>
      Level.ofName? (String.ofList (v.toList.map Char.toUpper))
    readAt t .group ws.tail fun _ ws =>
      let name := ws.headD ""
      readAt t (.leafOf name) ws.tail fun given ws =>
        .ok (.perform least (taskOf name given (ws.headD "")))

end Request

end Stencil.CommandLine
