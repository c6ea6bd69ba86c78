import Stencil.Pattern.Basic

set_option autoImplicit false

/-! # Name patterns

Patterns for the names of files: `*` for any characters, `?` for one, and sets in brackets, which
an exclamation mark turns around. All other characters stand for themselves, in either case only
for the one that is written. -/

namespace Stencil.Glob

/-- The members of a set, where a hyphen between two characters makes a range of them. -/
def setMembers : List Char → List CharClass
  | a :: '-' :: b :: cs => .range a b :: setMembers cs
  | a :: cs => .single a :: setMembers cs
  | [] => []

/-- The set that a text starts with, after its opening bracket, and what comes after it. A closing
    bracket in the first place is a member. -/
def set? (cs : List Char) : Option (Pattern × List Char) :=
  let (negated, cs) := match cs with | '!' :: cs => (true, cs) | cs => (false, cs)
  let (first, more) := match cs with | ']' :: cs => ([']'], cs) | cs => ([], cs)
  let members := setMembers (first ++ more.takeWhile (· ≠ ']'))
  match more.dropWhile (· ≠ ']') with
  | ']' :: rest => some (if negated then .noneOf members else .oneOf members, rest)
  | _ => none

/-- The pattern for a name; `fuel` of the length of the text is enough. -/
def patternFrom : Nat → List Char → Pattern
  | 0, _ => .empty
  | _, [] => .empty
  | fuel + 1, c :: cs =>
    match c with
    | '*' => .seq (.star (.noneOf [])) (patternFrom fuel cs)
    | '?' => .seq (.noneOf []) (patternFrom fuel cs)
    | '[' =>
      match set? cs with
      | some (p, rest) => .seq p (patternFrom fuel rest)
      | none => .seq (.char '[') (patternFrom fuel cs)
    | c => .seq (.char c) (patternFrom fuel cs)

/-- Whether a name fits a written pattern from end to end. -/
def accepts (pattern : List Char) (name : String) : Bool :=
  let cs := name.toList.toArray
  Pattern.fits cs (patternFrom pattern.length pattern) 0 fun i => i == cs.size

example : accepts "*.html".toList ".html" = true ∧ accepts "*.html".toList "a.HTML" = false ∧
    accepts "*[!a]".toList "xa" = false := by decide +kernel

end Stencil.Glob
