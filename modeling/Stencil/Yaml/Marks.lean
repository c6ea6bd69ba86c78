set_option autoImplicit false

/-! # Characters with their places

YAML reads its structure off the columns of a text, so the text is read as characters that know
their line and column. -/

namespace Stencil.Yaml

/-- Why a text has no value. -/
inductive Fault where
  | malformed
  /-- A date or time that the calendar does not have. -/
  | impossible (message : String)
  deriving DecidableEq, Repr

/-- A character with its line and column. -/
structure Mark where
  char : Char
  line : Nat
  column : Nat
  deriving DecidableEq, Repr

/-- Characters with their places. -/
abbrev Marks := List Mark

/-- Whether a character ends a line. -/
def isBreak (c : Char) : Bool :=
  c == '\n' || c == '\u0085' || c == '\u2028' || c == '\u2029'

/-- Whether a character separates tokens. -/
def isGap (c : Char) : Bool :=
  c == ' ' || c == '\t' || isBreak c

/-- Whether a character may stand in a text. -/
def isAllowed (c : Char) : Bool :=
  let n := c.toNat
  n == 9 || n == 10 || n == 13 || (32 ≤ n && n ≤ 126) || n == 0x85 || (0xA0 ≤ n && n ≤ 0xD7FF) ||
    (0xE000 ≤ n && n ≤ 0xFFFD) || 0x10000 ≤ n

/-- The characters of a text from a place on. -/
def marksFrom (line column : Nat) : List Char → Marks
  | [] => []
  | c :: cs =>
    ⟨c, line, column⟩ ::
      (if isBreak c then marksFrom (line + 1) 0 cs else marksFrom line (column + 1) cs)

/-- Whether a text is at its end or goes on with a gap. -/
def startsGap : Marks → Bool
  | [] => true
  | m :: _ => isGap m.char

/-- Whether a text goes on with a character and then a gap. -/
def startsIndicator (c : Char) : Marks → Bool
  | [] => false
  | m :: ms => m.char == c && startsGap ms

/-- The text from the next token on, past spaces, comments and line ends. -/
def toToken (inComment : Bool) : Marks → Marks
  | [] => []
  | m :: ms =>
    if isBreak m.char then toToken false ms
    else if inComment || m.char == ' ' then toToken inComment ms
    else if m.char == '#' then toToken true ms
    else m :: ms

/-- Whether a text goes on with three equal characters at the start of a line and a gap, as where
    documents are apart. -/
def startsDivider (c : Char) : Marks → Bool
  | a :: b :: d :: ms =>
    a.column == 0 && a.char == c && b.char == c && d.char == c && startsGap ms
  | _ => false

/-- Whether a text goes on with the start or the end of a document. -/
def atDivider (ms : Marks) : Bool :=
  startsDivider '-' ms || startsDivider '.' ms

/-- The line break that stands for a character that ends a line. -/
def breakChar (c : Char) : Char :=
  if c == '\u2028' || c == '\u2029' then c else '\n'

/-- What a line end between two parts of a text becomes: a space, or the empty lines after it. -/
def foldedBreak (first : Char) (empty : List Char) : List Char :=
  if breakChar first ≠ '\n' then breakChar first :: empty
  else if empty.isEmpty then [' '] else empty

end Stencil.Yaml
