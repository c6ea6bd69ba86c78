import Stencil.Engine.Basic
import Stencil.Text.Quoted

set_option autoImplicit false

/-! # Reports

What checking a template or a page finds: problems, for which it is refused, and concerns, which are
only worth a look. Both are kept as their causes. -/

namespace Stencil

/-- How much a check looks at. -/
inductive Strictness where
  /-- Block structure only. -/
  | permissive
  /-- Also names and risky places in markup. -/
  | standard
  /-- Also line length, nesting and unused variables. -/
  | strict
  deriving DecidableEq, Repr

namespace Strictness

/-- The name of a strictness. -/
def name : Strictness → String
  | .permissive => "permissive"
  | .standard => "standard"
  | .strict => "strict"

/-- How far a strictness goes: what a check looks at grows with it. -/
def rank : Strictness → Nat
  | .permissive => 0
  | .standard => 1
  | .strict => 2

/-- The strictness with a name. -/
def ofName? (name : String) : Option Strictness :=
  [permissive, standard, strict].find? (·.name = name)

end Strictness

/-- A reason to refuse a template or a page. -/
inductive Problem where
  | emptyTemplate
  | templateTooLong (size : Nat) (limit : Int)
  | malformed (fault : TemplateFault)
  /-- Opening braces that no closing ones belong to. -/
  | openDelimiter (line : Nat)
  | undefinedVariables (names : List String)
  | outputTooLong (size : Nat) (limit : Int)
  | missingPattern (pattern : String)
  | forbiddenPattern (pattern : String)
  deriving DecidableEq, Repr

/-- A place in markup where escaping does not make a variable safe. -/
inductive RiskyPlace where
  | script
  | eventHandler
  | url
  | style
  deriving DecidableEq, Repr

/-- Something worth a look in a template or a page. -/
inductive Concern where
  | unusedVariables (names : List String)
  | unknownComponent (line : Nat) (name : String)
  | unknownHelper (line : Nat) (name : String)
  | deepNesting (depth : Nat)
  | risky (place : RiskyPlace)
  | longLine (line size : Nat)
  /-- The control characters, quoted. -/
  | controlCharacters (quoted : List String)
  | tagInOutput
  deriving DecidableEq, Repr

/-- What a check measures. -/
inductive Measures where
  | emptyTemplate
  /-- The size of a template, and if its tags match, the number of its variables and its depth. -/
  | template (size lines : Nat) (sound : Option (Nat × Nat))
  | output (size : Nat)
  deriving DecidableEq, Repr

/-- What a check found. -/
structure Report where
  problems : List Problem
  concerns : List Concern
  /-- The names of the data that the template looks up. -/
  dataNames : List String
  measures : Measures
  deriving DecidableEq, Repr

/-- Names one after the other. -/
def commaList (names : List String) : String :=
  ", ".intercalate names

/-- The words for a problem. -/
def Problem.message : Problem → String
  | .emptyTemplate => TemplateFault.blank.message
  | .templateTooLong size limit =>
    "Template is " ++ toString size ++ " characters, more than the limit of " ++ toString limit
  | .malformed f => f.message
  | .openDelimiter line =>
    "Line " ++ toString line ++ ": '\x7b\x7b' is never closed by '\x7d\x7d'"
  | .undefinedVariables names => "Template uses undefined variables: " ++ commaList names
  | .outputTooLong size limit =>
    "Output is " ++ toString size ++ " characters, more than the limit of " ++ toString limit
  | .missingPattern p => "Required pattern not found: " ++ p
  | .forbiddenPattern p => "Forbidden pattern found: " ++ p

/-- The words for a risky place. -/
def RiskyPlace.message : RiskyPlace → String
  | .script => "Interpolation inside <script> is HTML-escaped, not JavaScript-escaped"
  | .eventHandler => "Interpolation inside an event handler attribute"
  | .url => "URL attribute starts with a variable; javascript: URLs are not filtered"
  | .style => "Interpolation inside a style attribute"

/-- The words for a concern. -/
def Concern.message : Concern → String
  | .unusedVariables names => "Expected variables not used by the template: " ++ commaList names
  | .unknownComponent line name =>
    "Line " ++ toString line ++ ": unknown component '" ++ name ++ "'"
  | .unknownHelper line name => "Line " ++ toString line ++ ": unknown helper '" ++ name ++ "'"
  | .deepNesting depth => "Deep nesting detected (level " ++ toString depth ++ ")"
  | .risky place => "Potential issue: " ++ place.message
  | .longLine line size =>
    "Line " ++ toString line ++ " is very long (" ++ toString size ++ " chars)"
  | .controlCharacters quoted => "Template contains control characters: " ++ commaList quoted
  | .tagInOutput => "Output contains unrendered template syntax"

namespace Report

/-- Whether nothing speaks against the template or the page. -/
def isValid (r : Report) : Bool := r.problems.isEmpty

/-- Whether something does. -/
def hasProblems (r : Report) : Bool := !r.problems.isEmpty

/-- Whether something is worth a look. -/
def hasConcerns (r : Report) : Bool := !r.concerns.isEmpty

end Report

end Stencil
