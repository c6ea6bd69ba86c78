import Stencil.Double.Decimal
import Stencil.Value.Text

set_option autoImplicit false

/-! # Reading JSON

A JSON text becomes a value: objects become mappings, in which a repeated name keeps its first
place and takes its last value. Besides the numbers of the standard, the words for not a number and
for the infinities are read. A fault says what is wrong and where. -/

namespace Stencil.Json

/-- What is wrong with a JSON text. -/
inductive Cause where
  | byteOrderMark
  | noValue
  | noName
  | noColon
  | noComma
  | openString
  | controlCharacter
  | badEscape
  | badCodeEscape
  | extraData
  | tooManyDigits (count : Nat)
  deriving DecidableEq, Repr

/-- What is wrong with a JSON text, and what is left of the text there. -/
structure Misfit where
  cause : Cause
  rest : List Char
  deriving DecidableEq, Repr

/-- The words for what is wrong. -/
def Cause.message : Cause → String
  | .byteOrderMark => "Unexpected UTF-8 BOM (decode using utf-8-sig)"
  | .noValue => "Expecting value"
  | .noName => "Expecting property name enclosed in double quotes"
  | .noColon => "Expecting ':' delimiter"
  | .noComma => "Expecting ',' delimiter"
  | .openString => "Unterminated string starting at"
  | .controlCharacter => "Invalid control character at"
  | .badEscape => "Invalid \\escape"
  | .badCodeEscape => "Invalid \\uXXXX escape"
  | .extraData => "Extra data"
  | .tooManyDigits n =>
    "Exceeds the limit (" ++ toString digitLimit ++ " digits) for integer string conversion: " ++
      "value has " ++ toString n ++
      " digits; use sys.set_int_max_str_digits() to increase the limit"

/-- The words for what is wrong with a text, and where. -/
def Misfit.message (m : Misfit) (text : List Char) : String :=
  match m.cause with
  | .tooManyDigits _ => m.cause.message
  | _ =>
    let before := text.take (text.length - m.rest.length)
    let column := (before.reverse.takeWhile (· ≠ '\n')).length + 1
    m.cause.message ++ ": line " ++ toString (before.count '\n' + 1) ++ " column " ++
      toString column ++ " (char " ++ toString before.length ++ ")"

/-- Either what is wrong, or what was read, most often with the rest of the text. -/
abbrev Reading := Except Misfit

/-- Whether a character may stand between the parts of a JSON text. -/
def isSpace (c : Char) : Bool :=
  c == ' ' || c == '\t' || c == '\n' || c == '\r'

/-- The text without the spaces that it starts with. -/
def skip (cs : List Char) : List Char := cs.dropWhile isSpace

/-! ## Strings -/

/-- The character that a letter after a backslash stands for. -/
def escaped? : Char → Option Char
  | '"' => some '"'
  | '\\' => some '\\'
  | '/' => some '/'
  | 'b' => some '\x08'
  | 'f' => some '\x0c'
  | 'n' => some '\n'
  | 'r' => some '\r'
  | 't' => some '\t'
  | _ => none

/-- The value of a hexadecimal digit. -/
def hexDigit? (c : Char) : Option Nat :=
  if '0' ≤ c && c ≤ '9' then some (c.toNat - 48)
  else if 'a' ≤ c && c ≤ 'f' then some (c.toNat - 87)
  else if 'A' ≤ c && c ≤ 'F' then some (c.toNat - 55)
  else none

/-- The value of four hexadecimal digits. -/
def hexFour? : List Char → Option (Nat × List Char)
  | a :: b :: c :: d :: cs => do
    let a ← hexDigit? a
    let b ← hexDigit? b
    let c ← hexDigit? c
    let d ← hexDigit? d
    return (((a * 16 + b) * 16 + c) * 16 + d, cs)
  | _ => none

/-- The low half of a pair of surrogates, where it is written. -/
def lowHalf? : List Char → Option (Nat × List Char)
  | '\\' :: 'u' :: cs => (hexFour? cs).filter fun (n, _) => 0xDC00 ≤ n && n ≤ 0xDFFF
  | _ => none

/-- The character with the code point in four digits; two halves make one character, and half a
    character alone is replaced. -/
def codeEscape? (cs : List Char) : Option (Char × List Char) :=
  match hexFour? cs with
  | none => none
  | some (n, rest) =>
    if 0xD800 ≤ n && n ≤ 0xDBFF then
      match lowHalf? rest with
      | some (m, rest) => some (Char.ofNat (0x10000 + (n - 0xD800) * 0x400 + (m - 0xDC00)), rest)
      | none => some ('\ufffd', rest)
    else if 0xDC00 ≤ n && n ≤ 0xDFFF then some ('\ufffd', rest)
    else some (Char.ofNat n, rest)

/-- Reads a string after its opening quote; `start` is the text from that quote on. Each step takes
    a character, so `fuel` of the length of the text is enough. -/
def readString (start : List Char) (acc : List Char) :
    Nat → List Char → Reading (String × List Char)
  | 0, _ => .error ⟨.openString, start⟩
  | _, [] => .error ⟨.openString, start⟩
  | fuel + 1, c :: cs =>
    if c = '"' then .ok (String.ofList acc.reverse, cs)
    else if c = '\\' then
      match cs with
      | [] => .error ⟨.openString, start⟩
      | 'u' :: rest =>
        match codeEscape? rest with
        | some (d, rest) => readString start (d :: acc) fuel rest
        | none => .error ⟨.badCodeEscape, cs⟩
      | d :: rest =>
        match escaped? d with
        | some e => readString start (e :: acc) fuel rest
        | none => .error ⟨.badEscape, c :: cs⟩
    else if c.toNat < 32 then .error ⟨.controlCharacter, c :: cs⟩
    else readString start (c :: acc) fuel cs

/-! ## Numbers -/

/-- Whether a character is an ASCII digit. -/
def isDigit (c : Char) : Bool := '0' ≤ c && c ≤ '9'

/-- The fraction that a text starts with, point and digits, or nothing. -/
def fraction (cs : List Char) : List Char × List Char :=
  match cs with
  | '.' :: d :: rest =>
    if isDigit d then ('.' :: d :: rest.takeWhile isDigit, rest.dropWhile isDigit) else ([], cs)
  | _ => ([], cs)

/-- The exponent that a text starts with, or nothing. -/
def exponent (cs : List Char) : List Char × List Char :=
  match cs with
  | [] => ([], cs)
  | e :: rest =>
    if e = 'e' || e = 'E' then
      let (sign, ds) :=
        match rest with
        | s :: ds => if s = '+' || s = '-' then ([s], ds) else ([], rest)
        | [] => ([], rest)
      let digits := ds.takeWhile isDigit
      if digits.isEmpty then ([], cs) else (e :: sign ++ digits, ds.dropWhile isDigit)
    else ([], cs)

/-- Reads a number. -/
def readNumber (start : List Char) : Reading (Value × List Char) :=
  let (sign, cs) := match start with | '-' :: cs => (['-'], cs) | cs => ([], cs)
  let (whole, rest) :=
    match cs with
    | '0' :: rest => (['0'], rest)
    | cs => (cs.takeWhile isDigit, cs.dropWhile isDigit)
  if whole.isEmpty then .error ⟨.noValue, start⟩
  else
    let (f, rest) := fraction rest
    let (e, rest) := exponent rest
    if f.isEmpty && e.isEmpty then
      if digitLimit < whole.length then .error ⟨.tooManyDigits whole.length, start⟩
      else
        let n : Int := Text.digitsValue 0 whole
        .ok (.int (if sign.isEmpty then n else -n), rest)
    else
      match Numeral.read? (sign ++ whole ++ f ++ e) with
      | some n => .ok (.float n.toDouble, rest)
      | none => .error ⟨.noValue, start⟩

/-- The words that are values. -/
def words : List (String × Value) :=
  [("null", .null), ("true", .bool true), ("false", .bool false), ("NaN", .float .nan),
    ("Infinity", .float (.infinite false)), ("-Infinity", .float (.infinite true))]

/-- Reads a word or a number. -/
def readPlain (cs : List Char) : Reading (Value × List Char) :=
  match words.findSome? fun (w, v) => (w.toList.isPrefixOf? cs).map fun rest => (v, rest) with
  | some r => .ok r
  | none => readNumber cs

/-! ## Values -/

mutual

/-- Reads a value; each step takes a character, so `fuel` of the length of the text is enough. -/
def readValue : Nat → List Char → Reading (Value × List Char)
  | 0, cs => .error ⟨.noValue, cs⟩
  | fuel + 1, cs =>
    match cs with
    | '"' :: rest => do
      let (s, rest) ← readString cs [] (rest.length + 1) rest
      return (.str s, rest)
    | '[' :: rest =>
      match skip rest with
      | ']' :: rest => .ok (.list [], rest)
      | rest => readItems fuel [] rest
    | '{' :: rest =>
      match skip rest with
      | '}' :: rest => .ok (.map [], rest)
      | rest => readEntries fuel [] rest
    | cs => readPlain cs

/-- Reads the items of an array up to its end. -/
def readItems : Nat → List Value → List Char → Reading (Value × List Char)
  | 0, _, cs => .error ⟨.noValue, cs⟩
  | fuel + 1, acc, cs => do
    let (v, rest) ← readValue fuel cs
    match skip rest with
    | ']' :: rest => return (.list (v :: acc).reverse, rest)
    | ',' :: rest => readItems fuel (v :: acc) (skip rest)
    | rest => .error ⟨.noComma, rest⟩

/-- Reads the entries of an object up to its end. -/
def readEntries : Nat → Entries → List Char → Reading (Value × List Char)
  | 0, _, cs => .error ⟨.noName, cs⟩
  | fuel + 1, acc, cs =>
    match cs with
    | '"' :: rest => do
      let (k, rest) ← readString cs [] (rest.length + 1) rest
      match skip rest with
      | ':' :: rest => do
        let (v, rest) ← readValue fuel (skip rest)
        let acc := acc.insert (.str k) v
        match skip rest with
        | '}' :: rest => return (.map acc, rest)
        | ',' :: rest => readEntries fuel acc (skip rest)
        | rest => .error ⟨.noComma, rest⟩
      | rest => .error ⟨.noColon, rest⟩
    | cs => .error ⟨.noName, cs⟩

end

/-- Reads a value that is all of the text. -/
def read (cs : List Char) : Reading Value :=
  match cs with
  | '\ufeff' :: _ => .error ⟨.byteOrderMark, cs⟩
  | _ => do
    let (v, rest) ← readValue (2 * cs.length + 1) (skip cs)
    match skip rest with
    | [] => return v
    | rest => .error ⟨.extraData, rest⟩

/-- Reads a value that is all of the text, or says what is wrong with the text. -/
def parse (text : String) : Except String Value :=
  let cs := text.toList
  (read cs).mapError fun m => m.message cs

end Stencil.Json
