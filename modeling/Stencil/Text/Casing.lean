import Stencil.Text.Edges
import Stencil.Text.Casing.Table

set_option autoImplicit false

/-! # Upper and lower case

The full case mappings of Unicode: a letter may become several (`ß` is `SS` in capitals), and a
capital sigma becomes a final sigma at the end of a word. -/

namespace Stencil.Text

/-- The upper case of one character. -/
def upperChar (c : Char) : List Char :=
  if c.toNat < 128 then [c.toUpper]
  else match upperSequences.lookup c.toNat with
    | some ns => ns.map Char.ofNat
    | none =>
      match upperRuns.findSome? (·.partner? c.toNat) with
      | some n => [Char.ofNat n]
      | none => [c]

/-- The upper case of a text. -/
def toUpper (cs : List Char) : List Char :=
  cs.flatMap upperChar

/-- The lower case of one character, wherever it stands. A dotted capital I keeps its dot as a
    combining mark. -/
def lowerChar (c : Char) : List Char :=
  if c.toNat < 128 then [c.toLower]
  else if c = 'İ' then ['i', '\u0307']
  else match lowerRuns.findSome? (·.partner? c.toNat) with
    | some n => [Char.ofNat n]
    | none => [c]

/-- Whether `c` is a letter with case that word boundaries do not pass over. -/
def isCased (c : Char) : Bool :=
  insideEdges casedEdges c.toNat

/-- Whether `c` is passed over when looking for the letter before or after a sigma. -/
def isCaseIgnorable (c : Char) : Bool :=
  insideEdges ignorableEdges c.toNat

/-- Whether the letter that comes next, if any, has no case. -/
def endsWord (cs : List Char) : Bool :=
  match cs.dropWhile isCaseIgnorable with
  | [] => true
  | c :: _ => !isCased c

/-- The lower case of a text that follows a letter with case iff `afterLetter`. -/
def lowerFrom (afterLetter : Bool) : List Char → List Char
  | [] => []
  | c :: cs =>
    let here :=
      if c = 'Σ' then if afterLetter && endsWord cs then ['ς'] else ['σ'] else lowerChar c
    here ++ lowerFrom (if isCaseIgnorable c then afterLetter else isCased c) cs

/-- The lower case of a text. -/
def toLower (cs : List Char) : List Char :=
  lowerFrom false cs

example : String.ofList (toUpper "straße ŉ ﬀ".toList) = "STRASSE ʼN FF" := by decide +kernel

example : String.ofList (toLower "ΟΔΟΣ. İ Σ".toList) = "οδος. i̇ σ" := by decide +kernel

end Stencil.Text
