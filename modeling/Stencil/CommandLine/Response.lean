import Stencil.CommandLine.Task
import Stencil.Console.Frame
import Stencil.Helper.Manual
import Stencil.Json.Writer

set_option autoImplicit false

/-! # Responses

What the program prints and writes for a command line. -/

namespace Stencil.CommandLine

/-- What the program leaves behind. -/
structure Response where
  exitCode : Nat
  /-- What is printed. -/
  output : String
  /-- What is told beside it. -/
  diagnostics : String
  /-- The file that is written. -/
  written : Option (Location × String)
  deriving DecidableEq, Repr

/-- The number of the version. -/
def version : String := "0.1.0"

/-! ## What is told -/

/-- Who tells a notice. -/
def teller : Notice → String
  | .configurationLoaded _ => "minibars.config.loader"
  | .templatesRegistered _ _ => "minibars.config.loader"
  | _ => "minibars.templates.engine"

/-- A notice on a line. -/
def noticeLine (n : Notice) : String :=
  n.level.name ++ " " ++ teller n ++ ": " ++ n.message ++ "\n"

/-- Notices line by line. -/
def noticeLines (log : List Notice) : String :=
  String.join (log.map noticeLine)

/-- The response to a task that came to an end. -/
def respond {α : Type} (t : Step α) (answer : α → Response) : Response :=
  match t.outcome with
  | .ok a =>
    let r := answer a
    { r with diagnostics := noticeLines t.log ++ r.diagnostics }
  | .error f =>
    { exitCode := 1
      output := Console.markedLine ("❌ Error: " ++ f.message)
      diagnostics := noticeLines t.log ++ "Aborted!\n"
      written := none }

/-- A response that prints something. -/
def Response.printing (exitCode : Nat) (output : String) : Response :=
  ⟨exitCode, output, "", none⟩

/-! ## Reports -/

/-- Messages under a title, if there are any. -/
def messageLines (title : String) (messages : List String) : String :=
  if messages.isEmpty then ""
  else "\n" ++ title ++ ":\n" ++ String.join (messages.map fun m => Console.line ("  • " ++ m))

/-- What speaks against a template, and what is worth a look. -/
def findings (r : Report) : String :=
  (if r.isValid then "✅ Template is valid\n" else "❌ Template validation failed\n") ++
    messageLines "Errors" (r.problems.map (·.message)) ++
    messageLines "Warnings" (r.concerns.map (·.message))

/-- The characters and lines of a template. -/
def sizeOf : Measures → Nat × Nat
  | .template size lines _ => (size, lines)
  | _ => (0, 0)

/-- A report in words. -/
def reportText (r : Report) : String :=
  let (size, lines) := sizeOf r.measures
  findings r ++ Console.markedLine ("\nTemplate variables: " ++ commaList r.dataNames) ++
    "Size: " ++ toString size ++ " characters, " ++ toString lines ++ " lines\n"

/-- What was measured, as fields. -/
def measureFields : Measures → List (String × Json.Document)
  | .emptyTemplate => [("empty", .bool true)]
  | .template size lines s =>
    [("length", .nat size), ("lines", .nat lines)] ++
      match s with
      | some (names, depth) => [("variable_count", .nat names), ("max_nesting", .nat depth)]
      | none => []
  | .output size => [("output_length", .nat size)]

/-- A report as a document. -/
def reportDocument (r : Report) : Json.Document :=
  let texts (xs : List String) : Json.Document := .list (xs.map .text)
  .object [
    ("is_valid", .bool r.isValid),
    ("errors", texts (r.problems.map (·.message))),
    ("warnings", texts (r.concerns.map (·.message))),
    ("variables", texts r.dataNames),
    ("metadata", .object (measureFields r.measures))]

/-! ## Tasks -/

/-- Whether a file can be written: it is in a directory and is none itself. -/
def canWrite (t : FileTree) (l : Location) : Bool :=
  match t.find? l with
  | some (.file _) => true
  | some (.directory _) => false
  | none =>
    match t.find? l.parent with
    | some (.directory _) => l.name != ".."
    | _ => false

/-- The response to a rendered page. A page that cannot be written is lost. -/
def pageResponse (t : FileTree) (output : Option Location) (page : String) : Response :=
  match output with
  | none => .printing 0 (page ++ "\n")
  | some l =>
    if canWrite t l then
      { exitCode := 0
        output := Console.markedLine ("📄 Output saved to " ++ l.text)
        diagnostics := ""
        written := some (l.resolved, page) }
    else .printing 1 ""

/-- The response to a report. -/
def reportResponse (asJson : Bool) (r : Report) : Response :=
  .printing (if r.isValid then 0 else 1)
    (if asJson then Json.write 0 (reportDocument r) ++ "\n" else reportText r)

/-- The response to a template that was tried out. -/
def trialResponse (template : String) (r : Report) (page : Option String) : Response :=
  let rendered :=
    match page with
    | some page => "\n" ++ Console.frame "Rendered Output" page
    | none => ""
  let found :=
    if r.dataNames.isEmpty then ""
    else Console.markedLine ("\nVariables found: " ++ commaList r.dataNames)
  .printing 0 ("🧪 Template Test Results\n\n" ++ Console.frame "Template" template ++ findings r ++
    rendered ++ found)

/-- The helpers of the library and the cards of the site. -/
def catalogue : String :=
  let card (c : Card) : String := "  • \x7b\x7bcomponent:" ++ c.name ++ " ...\x7d\x7d\n"
  Console.table "🔧 Available Helpers" ["Helper", "Description", "Example"]
      (Builtin.manual.map fun m => [m.name, m.purpose, m.sample]) ++
    "\nComponents:\n" ++ String.join (Card.site.map card)

/-- The response to a task. -/
def Task.response [Attributes] [Coercions] (t : FileTree) (env : Environment)
    (least : Option Level) : Task → Response
  | .render r => respond (r.page t env least) (pageResponse t r.output)
  | .check r => respond (r.report t env least) (reportResponse r.asJson)
  | .trial r => respond (r.result least) fun (report, page) => trialResponse r.template report page
  | .listHelpers => .printing 0 catalogue

/-! ## Command lines -/

/-- The response to a command line, where files are seen through a tree. -/
def response [Attributes] [Coercions] (t : FileTree) (env : Environment) (ws : List String) :
    Response :=
  match Request.read t ws with
  | .error e => ⟨2, "", e.command.refusal e.fault, none⟩
  | .ok (.help c) => .printing 0 (c.usage ++ "\n")
  | .ok .version => .printing 0 (Command.program ++ ", version " ++ version ++ "\n")
  | .ok (.perform least task) => task.response t env least

end Stencil.CommandLine
