import Stencil.Pattern.Basic
import Stencil.Validation.Report

set_option autoImplicit false

/-! # Risky places

The places in markup where a variable is not safe although it is escaped, as patterns for what leads
up to the tag. -/

namespace Stencil.RiskyPlace

open Pattern

/-- Any number of characters of none of some kinds. -/
def skipping (cs : List Char) : Pattern :=
  star (noneOf (cs.map .single))

/-- Any number of blanks. -/
def blanks : Pattern := star (oneOf [.blank])

/-- One of the two quotes. -/
def quote : Pattern := oneOf [.single '"', .single '\'']

/-- The start of a tag. -/
def braces : Pattern := all [char '{', char '{']

/-- What leads up to a tag in a risky place. -/
def pattern : RiskyPlace → Pattern
  | .script =>
    all [char '<', wordAnyCase "script", skipping ['>'], char '>', skipping ['<'], braces]
  | .eventHandler =>
    all [oneOf [.blank], wordAnyCase "on", plus (oneOf [.word]), blanks, char '=', blanks,
      optional quote, skipping ['"', '\'', '>'], braces]
  | .url =>
    all [edge, alt (wordAnyCase "href") (wordAnyCase "src"), blanks, char '=', blanks,
      optional quote, braces]
  | .style =>
    all [edge, wordAnyCase "style", blanks, char '=', blanks, quote, skipping ['"', '\''], braces]

/-- The risky places, in the order in which they are reported. -/
def all : List RiskyPlace := [script, eventHandler, url, style]

/-- The risky places in which a template has a tag. -/
def foundIn (text : List Char) : List RiskyPlace :=
  RiskyPlace.all.filter fun place => place.pattern.isFoundIn text

example : foundIn "<a HREF = '{{x}}' onclick=\"f({{y}})\">".toList = [.eventHandler, .url] := by
  decide +kernel

end Stencil.RiskyPlace
