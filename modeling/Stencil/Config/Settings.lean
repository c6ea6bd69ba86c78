import Stencil.Config.Coercions
import Stencil.Files.Location
import Stencil.Render.Notice

set_option autoImplicit false

/-! # Settings

The settings of an engine, read from a mapping. Each field takes values of other types where they
clearly mean one of its own. What cannot be taken is refused with a complaint for each place, in the
order of the fields; unknown fields are passed over. -/

namespace Stencil

/-- The settings of an engine. -/
structure Settings where
  /-- Templates under their names. -/
  templates : List (String × String)
  /-- The directory whose files are templates too. -/
  templateDirectory : Option Location
  /-- The ending of the names of those files. -/
  templateSuffix : String
  /-- Whether the cards of the site are registered. -/
  siteComponents : Bool
  /-- The number of parsed templates that are kept. -/
  cacheSize : Nat
  logLevel : Level
  /-- The options that every render starts from. -/
  options : Entries
  deriving Repr

namespace Refusal

/-- The code of a refusal. -/
def code : Refusal → String
  | .notTaken c => c
  | .negative => "greater_than_equal"
  | .unknownLevel _ => "value_error"

/-- The words for a refusal that has words of its own. -/
def message? : Refusal → Option String
  | .unknownLevel t =>
    some ("Value error, Invalid log level '" ++ t ++ "'. Choose one of: " ++
      ", ".intercalate (Level.all.map Level.name))
  | _ => none

end Refusal

namespace Settings

variable [Coercions]

/-! ## Single fields -/

/-- Takes templates under their names. -/
def takeTemplates (v : Value) : Except Refused (List (String × String)) := do
  let fields ← Coercions.texts v
  return fields.entries

/-- Takes a location or nothing. -/
def takeLocation (v : Value) : Except Refused (Option Location) := do
  let path ← Coercions.path v
  return path.map .ofText

/-- A suffix with a point at its start. -/
def pointed (s : String) : String :=
  if s.toList.head? = some '.' then s else "." ++ s

/-- Takes a suffix. -/
def takeSuffix (v : Value) : Except Refused String := do
  let s ← Coercions.text v
  return pointed s

/-- Takes a number of things. -/
def takeCount (v : Value) : Except Refused Nat := do
  match ← Coercions.integer v with
  | .ofNat n => return n
  | .negSucc _ => .error (.whole .negative)

/-- Takes a level by its name, whatever its case. -/
def takeLevel (v : Value) : Except Refused Level := do
  let s ← Coercions.text v
  match Level.ofName? (String.ofList (Text.toUpper s.toList)) with
  | some l => return l
  | none => .error (.whole (.unknownLevel s))

/-- Takes options. -/
def takeOptions (v : Value) : Except Refused Entries := do
  let fields ← Coercions.values v
  return .ofFields fields.entries

/-! ## All fields -/

/-- The names of the fields, in order. -/
def fieldNames : List String :=
  ["templates", "template_dir", "template_suffix", "site_components", "cache_size", "log_level",
    "options"]

/-- The settings where nothing is set. -/
def usual : Settings :=
  { templates := []
    templateDirectory := none
    templateSuffix := ".html"
    siteComponents := true
    cacheSize := 128
    logLevel := .warning
    options := [] }

/-- A field of the settings: what it is if it is not set, and how it is taken. -/
def takeField {α : Type} (es : Entries) (name : String) (unset : α) (take : Coercion α) :
    Except Refused α :=
  match es.field? name with
  | some v => (take v).mapError (.within name)
  | none => .ok unset

/-- The settings in a mapping. -/
def read (es : Entries) : Except (List Complaint) Settings :=
  let templates := takeField es "templates" usual.templates takeTemplates
  let directory := takeField es "template_dir" usual.templateDirectory takeLocation
  let suffix := takeField es "template_suffix" usual.templateSuffix takeSuffix
  let site := takeField es "site_components" usual.siteComponents Coercions.truth
  let size := takeField es "cache_size" usual.cacheSize takeCount
  let level := takeField es "log_level" usual.logLevel takeLevel
  let options := takeField es "options" usual.options takeOptions
  match templates, directory, suffix, site, size, level, options with
  | .ok templates, .ok directory, .ok suffix, .ok site, .ok size, .ok level, .ok options =>
    .ok {
      templates := templates
      templateDirectory := directory
      templateSuffix := suffix
      siteComponents := site
      cacheSize := size
      logLevel := level
      options := options }
  | _, _, _, _, _, _, _ =>
    .error (complaints templates ++ complaints directory ++ complaints suffix ++ complaints site ++
      complaints size ++ complaints level ++ complaints options)

/-- The settings as a mapping, with the text of the location. -/
def toEntries (s : Settings) : Entries :=
  .ofFields [
    ("templates", .map (Entries.ofFields (s.templates.map fun t => (t.1, .str t.2)))),
    ("template_dir", match s.templateDirectory with | some l => .str l.text | none => .null),
    ("template_suffix", .str s.templateSuffix),
    ("site_components", .bool s.siteComponents),
    ("cache_size", .int s.cacheSize),
    ("log_level", .str s.logLevel.name),
    ("options", .map s.options)]

end Settings

end Stencil
