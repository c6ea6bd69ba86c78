import Stencil.Card.Site
import Stencil.Config.Reference
import Stencil.Config.Settings
import Stencil.Files.Tree
import Stencil.Yaml.Reader

set_option autoImplicit false

/-! # Loading

Settings are loaded from a file, with references to the environment replaced, and an engine is built
from them: first the cards of the site, then the files of the template directory, then the templates
of the settings themselves, which so win over files of the same name. -/

namespace Stencil

-- Names are ordered by their characters, whatever other order lists are given.
attribute [local instance (2000)] List.instLE List.decidableLE

/-- Why something could not be loaded. -/
inductive LoadFault where
  | noSettings (path : String)
  | wrongExtension (suffix : String)
  | isDirectory (path : String)
  | malformed
  | impossible (message : String)
  | notMapping (path typeName : String)
  | badReference (path : String) (fault : ReferenceFault)
  | keyNotText
  | refused (path : String) (complaints : List Complaint)
  | noDirectory (path : String)
  | badGlob
  deriving DecidableEq, Repr

/-- The words for why something could not be loaded. -/
def LoadFault.message : LoadFault → String
  | .noSettings p =>
    "Configuration file not found: " ++ p ++ ". Suggestion: Check the path or create the file."
  | .wrongExtension s =>
    "Invalid file extension: " ++ s ++
      ". Suggestion: Use .yaml or .yml extension for configuration files."
  | .isDirectory p => "[Errno 21] Is a directory: " ++ Text.quoted p
  | .malformed => "Failed to parse YAML file"
  | .impossible m => m
  | .notMapping p t => "Configuration in " ++ p ++ " must be a mapping, got " ++ t
  | .badReference p f => "Environment variable substitution failed in " ++ p ++ ": " ++ f.message
  | .keyNotText => "keywords must be strings"
  | .refused p _ => "Configuration validation failed for " ++ p ++ ":"
  | .noDirectory p =>
    "Template directory not found: " ++ p ++
      ". Suggestion: Create the directory or check the path."
  | .badGlob => "Invalid pattern: '**' can only be an entire path component"

/-- Why a text that is no YAML could not be loaded. -/
def LoadFault.ofYaml : Yaml.Fault → LoadFault
  | .malformed => .malformed
  | .impossible m => .impossible m

/-- What was loaded, or why not, and what was told on the way. -/
abbrev Loading := Telling LoadFault

/-! ## Files -/

/-- Whether a location has an extension of files with YAML, in any case. -/
def Location.namesYaml (l : Location) : Bool :=
  [".yaml", ".yml"].contains (String.ofList (Text.toLower l.suffix.toList))

/-- Whether all keys are texts. -/
def Entries.hasTextKeys (es : Entries) : Bool :=
  es.all fun e => match e.1 with | .str _ => true | _ => false

namespace FileTree

/-- The text of a file, with its line ends as line breaks; nothing if there is no file. -/
def readText (t : FileTree) (l : Location) : Except LoadFault (Option String) :=
  match t.find? l with
  | some (.file text) => .ok (some (String.ofList (Text.unifiedLines text.toList)))
  | some (.directory _) => .error (.isDirectory l.text)
  | none => .ok none

/-! ## Settings -/

/-- The mapping in a file with settings. -/
def settingsEntries (t : FileTree) (l : Location) : Except LoadFault Entries := do
  match t.find? l with
  | none => .error (.noSettings l.text)
  | some _ =>
    if !l.namesYaml then .error (.wrongExtension l.suffix)
    else
      let text ← t.readText l
      match ← (Yaml.read (text.getD "")).mapError .ofYaml with
      | .null => return []
      | .map es => return es
      | v => .error (.notMapping l.text v.typeName)

/-- Loads the settings in a file. A relative template directory is seen from the directory of the
    file. -/
def loadSettings [Coercions] (t : FileTree) (env : Environment) (substitute strict : Bool)
    (l : Location) : Loading Settings :=
  let loaded : Except LoadFault Settings := do
    let es ← t.settingsEntries l
    let es ←
      if substitute then
        (Value.substituteEntries env strict es).mapError (LoadFault.badReference l.text)
      else .ok es
    if !Entries.hasTextKeys es then .error .keyNotText
    else
      let s ← (Settings.read es).mapError (LoadFault.refused l.text)
      return { s with templateDirectory := s.templateDirectory.map (l.parent.under ·) }
  { log := if loaded.isOk then [.configurationLoaded l.text] else []
    outcome := loaded }

/-! ## Templates -/

/-- The name patterns for files with an ending, one for each name of a location. -/
def suffixPatterns (suffix : String) : List (List Char) :=
  (splitOn '/' ('*' :: suffix.toList)).filter fun p => !p.isEmpty && p ≠ ['.']

/-- Whether there is a directory at a location. -/
def leadsToDirectory (t : FileTree) (l : Location) : Bool :=
  match t.find? l with
  | some (.directory _) => true
  | _ => false

/-- The locations below a directory whose names have an ending, in ascending order. An ending with a
    slash at its end is one for directories. -/
def withSuffix (t : FileTree) (directory : Location) (suffix : String) : List Location :=
  let found := (t.select directory (suffixPatterns suffix)).eraseDups
  let found :=
    if suffix.toList.getLast? = some '/' then found.filter t.leadsToDirectory else found
  found.mergeSort fun a b => a.names ≤ b.names

/-- Whether two stars stand together in a text. -/
def hasDoubleStar : List Char → Bool
  | '*' :: '*' :: _ => true
  | _ :: cs => hasDoubleStar cs
  | [] => false

/-- Whether two stars stand together in a pattern that is more than these. -/
def isBadPattern (pattern : List Char) : Bool :=
  pattern ≠ anyDepth && hasDoubleStar pattern

/-- Registers the files at some locations under their names without ending. -/
def registerFiles (t : FileTree) (e : Engine) : List Location → Except LoadFault Engine
  | [] => .ok e
  | l :: ls => do
    let text ← t.readText l
    registerFiles t (e.registerTemplate l.stem (text.getD "")) ls

/-- Registers the files of a directory that have an ending, in the order of their names, and counts
    them. -/
def loadTemplates (t : FileTree) (e : Engine) (directory : Location) (suffix : String) :
    Loading (Engine × Nat) :=
  match t.find? directory with
  | some (.directory _) =>
    if (suffixPatterns suffix).any isBadPattern then .fail .badGlob
    else do
      let found := t.withSuffix directory suffix
      let e ← .ofOutcome (t.registerFiles e found)
      Telling.tell (.templatesRegistered found.length directory.text)
      return (e, found.length)
  | _ => .fail (.noDirectory directory.text)

/-- Builds an engine from settings. -/
def buildEngine [Attributes] (t : FileTree) (s : Settings) : Loading Engine :=
  let e := Engine.standard s.cacheSize s.options
  let e := if s.siteComponents then e.registerSite else e
  let inline (e : Engine) : Engine :=
    s.templates.foldl (fun e f => e.registerTemplate f.1 f.2) e
  match s.templateDirectory with
  | none => return inline e
  | some directory => do
    let (e, _) ← t.loadTemplates e directory s.templateSuffix
    return inline e

end FileTree

end Stencil
