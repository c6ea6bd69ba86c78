import Stencil.CommandLine.Response

set_option autoImplicit false

/-! # The program

What a command line may need of the file system and the environment is gathered into a tree and a
list of variables, from which the response follows. -/

namespace Stencil.Program

open CommandLine

/-! ## Files -/

/-- The names in a directory, if a path leads to one. -/
def readNames? (path : String) : IO (Option (List String)) := do
  try
    let entries ← (← IO.FS.realPath path).readDir
    return some (entries.toList.map (·.fileName))
  catch _ => return none

/-- The text of a file, if a path leads to one. -/
def readFile? (path : String) : IO (Option String) := do
  try
    return some (← IO.FS.readFile path)
  catch _ => return none

/-- A tree with what is at a location. -/
def look (t : FileTree) (l : Location) : IO FileTree := do
  match ← readNames? l.text with
  | some _ => return { t with directories := l :: t.directories }
  | none =>
    match ← readFile? l.text with
    | some text => return { t with files := (l, text) :: t.files }
    | none => return t

/-- The locations that a path passes from a directory on. -/
def passed (directory : Location) : List String → List Location
  | [] => []
  | n :: ns => directory.step n :: passed (directory.step n) ns

/-- A tree with what a path passes and leads to. -/
def lookAlong (t : FileTree) (l : Location) : IO FileTree :=
  (passed ⟨if l.isAbsolute then "/" else "", []⟩ l.names).foldlM look t

/-- A tree with all that is in a directory. -/
partial def lookInto (t : FileTree) (l : Location) : IO FileTree := do
  let names := (← readNames? l.text).getD []
  names.foldlM (fun t n => do lookInto (← look t (l.child n)) (l.child n)) t

/-! ## The environment -/

/-- The names of the variables that a text refers to. -/
def variablesIn (text : String) : List String :=
  (Fragment.scan text.toList).filterMap fun
    | .reference r => some (String.ofList r.name)
    | .text _ => none

/-- The variables that the text of a file refers to, as far as they are set. -/
def environmentFor (t : FileTree) (l : Location) : IO Environment := do
  match t.find? l with
  | some (.file text) =>
    (variablesIn text).filterMapM fun name => do
      return (← IO.getEnv name).map fun value => (name, value)
  | _ => return []

/-! ## Command lines -/

/-- The paths that may be meant by the words of a command line. -/
def pathsIn (ws : List String) : List Location :=
  (ws ++ ws.filterMap fun w => (Command.splitOption w).2).map Location.ofText

/-- Gathers what a command line needs. -/
def gather (ws : List String) : IO (FileTree × Environment) := do
  let t ← (pathsIn ws).foldlM lookAlong ⟨[], []⟩
  match Request.read t ws with
  | .ok (.perform _ task) =>
    match task.config? with
    | none => return (t, [])
    | some l =>
      let env ← environmentFor t l
      match (t.loadSettings env true false l).outcome with
      | .ok { templateDirectory := some d, .. } =>
        return (← lookInto (← lookAlong t d) d.resolved, env)
      | _ => return (t, env)
  | _ => return (t, [])

/-- Performs a command line. -/
def perform (ws : List String) : IO UInt32 := do
  let (t, env) ← gather ws
  let r := response t env ws
  match r.written with
  | some (l, text) => IO.FS.writeFile l.text text
  | none => pure ()
  IO.eprint r.diagnostics
  IO.print r.output
  return r.exitCode.toUInt32

end Stencil.Program

/-- The program. -/
def main (args : List String) : IO UInt32 :=
  Stencil.Program.perform args
