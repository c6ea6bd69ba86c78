import Stencil.Text.Printable

set_option autoImplicit false

/-! # Quoted texts

How a text is written inside the literal of a list or a mapping: between single quotes, or between
double quotes when it holds single quotes only, with an escape for the quote, for the backslash and
for every character without a visible form. Byte strings are written alike, after a `b`. -/

namespace Stencil.Text

/-- The quote around a text: the single one unless that would need escapes and the double one would
    not. -/
def quoteFor (cs : List Char) : Char :=
  if cs.contains '\'' && !cs.contains '"' then '"' else '\''

/-- The last `size` hexadecimal digits of `n`. -/
def hexDigits (n : Nat) : Nat → List Char
  | 0 => []
  | size + 1 => hexDigits (n / 16) size ++ [Nat.digitChar (n % 16)]

/-- The escape for a character without a visible form, as short as its code point allows. -/
def codeEscape (n : Nat) : List Char :=
  if n < 0x100 then '\\' :: 'x' :: hexDigits n 2
  else if n < 0x10000 then '\\' :: 'u' :: hexDigits n 4
  else '\\' :: 'U' :: hexDigits n 8

/-- One character of a quoted text, where `visible` says which characters stand for themselves. -/
def escapeIn (quote : Char) (visible : Char → Bool) (c : Char) : List Char :=
  if c = quote || c = '\\' then ['\\', c]
  else if c = '\n' then ['\\', 'n']
  else if c = '\r' then ['\\', 'r']
  else if c = '\t' then ['\\', 't']
  else if visible c then [c]
  else codeEscape c.toNat

/-- The text between quotes, with escapes. -/
def quoted (s : String) : String :=
  let cs := s.toList
  let q := quoteFor cs
  String.ofList (q :: cs.flatMap (escapeIn q isPrintable) ++ [q])

/-- A byte string between quotes: bytes outside ASCII are escaped. -/
def quotedBytes (bytes : List UInt8) : String :=
  let cs := bytes.map fun b => Char.ofNat b.toNat
  let q := quoteFor cs
  String.ofList ('b' :: q :: cs.flatMap (escapeIn q fun c => isPrintable c && c.toNat < 127) ++ [q])

example : quoted "it's" = "\"it's\"" ∧ quoted "a\n\\" = "'a\\n\\\\'" ∧
    quoted "'\"" = "'\\'\"'" := by decide +kernel

example : quotedBytes [97, 39, 0, 255] = "b\"a'\\x00\\xff\"" := by decide +kernel

end Stencil.Text
