import Stencil.Files.Tree
import Stencil.Text.Quoted

set_option autoImplicit false

/-! # Usage

What may stand on a command line. A command takes options, each with a value, and then an argument
or another command. Options may stand before and after an argument, but only before a command; all
words after a double hyphen are arguments. Words that no command takes are refused with a cause. -/

namespace Stencil.CommandLine

/-! ## Commands -/

/-- What may be given for a parameter. -/
inductive Domain where
  | any
  | existingPath
  /-- One of some words, in any case or only in that of the words. -/
  | choice (words : List String) (anyCase : Bool)
  deriving DecidableEq, Repr

/-- A parameter with a value. -/
structure Parameter where
  name : String
  domain : Domain
  deriving DecidableEq, Repr

/-- What a command takes besides options. -/
inductive Operand where
  | nothing
  | argument (p : Parameter)
  | command (names : List String)
  deriving DecidableEq, Repr

/-- A command. -/
structure Command where
  /-- The words that call it, from the name of the program on. -/
  words : List String
  /-- The options without a value. The first one that is given is all that is done. -/
  flags : List String
  options : List Parameter
  operand : Operand
  deriving DecidableEq, Repr

/-! ## Faults -/

/-- Why the words after a command are refused. -/
inductive UsageFault where
  | noWords
  | noSuchOption (name : String)
  | noValue (option : String)
  | unwantedValue (option : String)
  | noCommand
  | noSuchCommand (name : String)
  | missingArgument (name : String)
  | noPath (parameter path : String)
  | noChoice (parameter value : String) (words : List String)
  | extraArguments (arguments : List String)
  deriving DecidableEq, Repr

/-- The words for why a command is refused. -/
def UsageFault.message : UsageFault → String
  | .noWords => "Missing command."
  | .noSuchOption n => "No such option " ++ Text.quoted n ++ "."
  | .noValue o => "Option " ++ Text.quoted o ++ " requires an argument."
  | .unwantedValue o => "Option " ++ Text.quoted o ++ " does not take a value."
  | .noCommand => "Missing command."
  | .noSuchCommand n => "No such command " ++ Text.quoted n ++ "."
  | .missingArgument n => "Missing argument '" ++ n ++ "'."
  | .noPath p v => "Invalid value for '" ++ p ++ "': Path " ++ Text.quoted v ++ " does not exist."
  | .noChoice p v ws =>
    "Invalid value for '" ++ p ++ "': " ++ Text.quoted v ++ " is not one of " ++
      ", ".intercalate (ws.map Text.quoted) ++ "."
  | .extraArguments ws =>
    "Got unexpected extra argument" ++ (if ws.length = 1 then "" else "s") ++ " (" ++
      " ".intercalate ws ++ ")"

/-- Why a value cannot be given for a parameter, if it cannot. A single hyphen passes for a path. -/
def Parameter.fault? (t : FileTree) (p : Parameter) (value : String) : Option UsageFault :=
  match p.domain with
  | .any => none
  | .existingPath => if value = "-" || t.reaches value then none else some (.noPath p.name value)
  | .choice words anyCase =>
    let folded := if anyCase then String.ofList (value.toList.map Char.toLower) else value
    if words.contains folded then none else some (.noChoice p.name value words)

namespace Command

/-- How a command is used. -/
def usage (c : Command) : String :=
  "Usage: " ++ " ".intercalate c.words ++ " [OPTIONS]" ++
    match c.operand with
    | .nothing => ""
    | .argument p => " " ++ p.name
    | .command _ => " COMMAND [ARGS]..."

/-- The words for a refusal of what stands after a command. -/
def refusal (c : Command) (f : UsageFault) : String :=
  match f with
  | .noWords => c.usage ++ "\n"
  | f =>
    c.usage ++ "\nTry '" ++ " ".intercalate c.words ++ " --help' for help.\n\nError: " ++
      f.message ++ "\n"

/-- Whether another command follows. -/
def takesCommand (c : Command) : Bool :=
  match c.operand with
  | .command _ => true
  | _ => false

/-! ## Words -/

/-- The words after a command, sorted. -/
structure Words where
  flags : List String
  options : List (String × String)
  operands : List String
  deriving DecidableEq, Repr

/-- Whether a word is an option. A single hyphen is none. -/
def isOption (word : String) : Bool :=
  match word.toList with
  | '-' :: _ :: _ => true
  | _ => false

/-- The name in an option, and the value behind an equals sign. -/
def splitOption (word : String) : String × Option String :=
  let cs := word.toList
  (String.ofList (cs.takeWhile (· ≠ '=')),
    match cs.dropWhile (· ≠ '=') with
    | _ :: value => some (String.ofList value)
    | [] => none)

/-- The name of an unknown option: a single hyphen makes a name of one character. -/
def optionName (word : String) : String :=
  match word.toList with
  | '-' :: '-' :: _ => (splitOption word).1
  | cs => String.ofList (cs.take 2)

/-- Sorts the words after a command. An option without an equals sign takes the next word for its
    value, whatever it is. -/
def sortWords (c : Command) : List String → Except UsageFault Words
  | [] => .ok ⟨[], [], []⟩
  | w :: ws =>
    if w = "--" then .ok ⟨[], [], ws⟩
    else if !isOption w then
      if c.takesCommand then .ok ⟨[], [], w :: ws⟩
      else (sortWords c ws).map fun r => { r with operands := w :: r.operands }
    else
      let (name, value) := splitOption w
      if c.flags.contains name then
        match value with
        | some _ => .error (.unwantedValue name)
        | none => (sortWords c ws).map fun r => { r with flags := name :: r.flags }
      else if c.options.any (·.name = name) then
        match value, ws with
        | some v, ws =>
          (sortWords c ws).map fun r => { r with options := (name, v) :: r.options }
        | none, v :: ws =>
          (sortWords c ws).map fun r => { r with options := (name, v) :: r.options }
        | none, [] => .error (.noValue name)
      else .error (.noSuchOption (optionName w))

/-! ## Values -/

/-- The value that counts for an option: the last one that is given. -/
def option? (given : List (String × String)) (name : String) : Option String :=
  given.reverse.lookup name

/-- Why the given options are refused, if they are. The option that is given first is looked at
    first. -/
def optionFault? (t : FileTree) (c : Command) (given : List (String × String)) :
    Option UsageFault :=
  (given.map (·.1)).eraseDups.findSome? fun name => do
    let p ← c.options.find? (·.name = name)
    let v ← option? given name
    p.fault? t v

/-- Why the operands of a command are refused, if they are. -/
def operandFault? (t : FileTree) (c : Command) (operands : List String) : Option UsageFault :=
  match c.operand, operands with
  | .nothing, [] => none
  | .nothing, ws => some (.extraArguments ws)
  | .argument p, [] => some (.missingArgument p.name)
  | .argument p, w :: ws =>
    (p.fault? t w).or (if ws.isEmpty then none else some (.extraArguments ws))
  | .command _, [] => some .noCommand
  | .command names, w :: _ => if names.contains w then none else some (.noSuchCommand w)

/-- Reads the words after a command. Where a flag is given nothing else is looked at. -/
def read (t : FileTree) (c : Command) (ws : List String) : Except UsageFault Words := do
  if ws.isEmpty && c.takesCommand then .error .noWords
  else
    let sorted ← c.sortWords ws
    if !sorted.flags.isEmpty then return sorted
    else
      match (optionFault? t c sorted.options).or (operandFault? t c sorted.operands) with
      | some f => .error f
      | none => return sorted

end Command

end Stencil.CommandLine
