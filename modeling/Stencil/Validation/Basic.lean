import Stencil.Pattern.Written
import Stencil.Validation.Risk

set_option autoImplicit false

/-! # Checking templates and pages

A template is checked against the names that an engine knows. Tags that do not match are problems,
since an engine would quietly render something else than what is written; unknown names, risky
places and style are concerns. A page is checked for its length and for patterns. -/

namespace Stencil

/-! ## Delimiters -/

/-- The lines of the pairs of opening braces in a text that starts on a line. -/
def openDelimiters (line : Nat) : List Char → List Nat
  | '{' :: '{' :: cs => line :: openDelimiters line cs
  | c :: cs => openDelimiters (if c = '\n' then line + 1 else line) cs
  | [] => []

/-- The lines of the pairs of opening braces outside tags, for segments from a line on. -/
def strayDelimiters (line : Nat) : List Segment → List Nat
  | [] => []
  | .text cs :: ss => openDelimiters line cs ++ strayDelimiters (line + Piece.breaks cs) ss
  | .tag body :: ss => strayDelimiters (line + Piece.breaks body) ss

namespace Template

/-- The lines of the pairs of opening braces in a template that are not part of a tag. -/
def openDelimiterLines (text : String) : List Nat :=
  strayDelimiters 1 (Segment.scan text.toList)

end Template

/-! ## Concerns -/

namespace Functions

/-- What is unknown in the tag of a node: a component, or the helper of an expression that calls
    one. -/
def unknownIn (f : Functions) : Node → List Concern
  | .component name _ line =>
    if f.components.names.contains name then [] else [.unknownComponent line name]
  | .variable e line => unknownHelper e line
  | .block .conditional e line _ => unknownHelper e line
  | _ => []
where
  /-- The helper that an expression calls, if it is unknown. -/
  unknownHelper (e : String) (line : Nat) : List Concern :=
    match Expression.read e.toList with
    | .call helper _ =>
      let name := String.ofList helper
      if f.helpers.names.contains name then [] else [.unknownHelper line name]
    | _ => []

end Functions

/-- Whether a character is a control character other than tabs and line ends. -/
def isControl (c : Char) : Bool :=
  let n := c.toNat
  (n < 32 && c != '\t' && c != '\n' && c != '\r') || (127 ≤ n && n < 160)

/-- The control characters of a text, if there are any. -/
def controlConcern (text : List Char) : List Concern :=
  match sortedDistinct ((text.filter isControl).map fun c => Text.quoted (String.singleton c)) with
  | [] => []
  | found => [.controlCharacters found]

/-- The greatest number of characters of a line that is not called long. -/
def longestLine : Nat := 200

/-- The lines that are too long. -/
def longLines (text : List Char) : List Concern :=
  ((splitOn '\n' text).zipIdx 1).filterMap fun (l, i) =>
    if longestLine < l.length then some (.longLine i l.length) else none

/-- The greatest depth that is not called deep. -/
def deepestNesting : Nat := 3

/-! ## Checking -/

namespace Engine

/-- What is wrong with a template as such: the first tag that does not match, and opening braces
    without closing ones. -/
def syntaxProblems (text : String) : List Problem :=
  (Template.fault? text).toList.map .malformed ++
    (Template.openDelimiterLines text).map .openDelimiter

/-- The variables of a template that are not among the expected ones. No expectation is one without
    any names, too. -/
def undefinedVariables (used expected : List String) : List Problem :=
  if expected.isEmpty then []
  else
    match sortedDistinct (used.filter (!expected.contains ·)) with
    | [] => []
    | names => [.undefinedVariables names]

/-- The expected variables that a template does not use. -/
def unusedVariables (used expected : List String) : List Concern :=
  match sortedDistinct (expected.filter (!used.contains ·)) with
  | [] => []
  | names => [.unusedVariables names]

/-- Whether a size is above a limit; a limit of zero is none. -/
def exceeds (size : Nat) (limit : Option Int) : Option Int :=
  limit.filter fun l => l != 0 && l < size

/-- Concerns that are raised from a strictness on. -/
def whenAtLeast (strictness least : Strictness) (concerns : List Concern) : List Concern :=
  if least.rank ≤ strictness.rank then concerns else []

/-- Checks a template. `expected` are the names of the data that it will get, if they are known. -/
def check (e : Engine) (strictness : Strictness) (text : String) (expected : List String)
    (limit : Option Int) : Report :=
  if text.isEmpty then ⟨[.emptyTemplate], [], [], .emptyTemplate⟩
  else
    let cs := text.toList
    let size := cs.length
    let lines := Piece.breaks cs + 1
    let tooLong := (exceeds size limit).toList.map (Problem.templateTooLong size)
    let malformed := syntaxProblems text
    let nodes := Template.parse text
    let used := Template.dataNames nodes
    let depth := Template.depth nodes
    let sound := malformed.isEmpty
    let undefined := if sound then undefinedVariables used expected else []
    let structural :=
      if sound then
        whenAtLeast strictness .strict (unusedVariables used expected) ++
          whenAtLeast strictness .standard
            ((Template.walk nodes).flatMap e.functions.unknownIn) ++
          whenAtLeast strictness .strict
            (if deepestNesting < depth then [.deepNesting depth] else [])
      else []
    { problems := tooLong ++ malformed ++ undefined
      concerns :=
        structural ++
          whenAtLeast strictness .standard ((RiskyPlace.foundIn cs).map .risky) ++
          whenAtLeast strictness .strict (longLines cs) ++ controlConcern cs
      dataNames := if sound then used else []
      measures := .template size lines (if sound then some (used.length, depth) else none) }

end Engine

/-! ## Pages -/

/-- Looks for a written pattern in a text. -/
def searchWritten (pattern text : String) : Outcome Bool :=
  match Pattern.read pattern.toList with
  | .ok p => .ok (p.isFoundIn text.toList)
  | .error f => .error (.raised "error" (f.message pattern.toList))

/-- The written patterns of some that are found in a text iff `found`. -/
def patternsFound (found : Bool) (patterns : List String) (text : String) :
    Outcome (List String) :=
  patterns.filterM fun p => do
    let b ← searchWritten p text
    return b == found

/-- Checks a page: its length, the patterns that it must have and those that it must not have. -/
def checkOutput (text : String) (limit : Option Int) (required forbidden : List String) :
    Outcome Report := do
  let size := text.length
  let missing ← patternsFound false required text
  let unwanted ← patternsFound true forbidden text
  return {
    problems :=
      (Engine.exceeds size limit).toList.map (Problem.outputTooLong size) ++
        missing.map .missingPattern ++ unwanted.map .forbiddenPattern
    concerns := if (openDelimiters 1 text.toList).isEmpty then [] else [.tagInOutput]
    dataNames := []
    measures := .output size }

end Stencil
