import Stencil.Value.Text

set_option autoImplicit false

/-! # Writing JSON

JSON documents for reports, laid out with one entry or item a line and two spaces for each level. -/

namespace Stencil.Json

/-- A document. -/
inductive Document where
  | bool (b : Bool)
  | nat (n : Nat)
  | text (s : String)
  | list (items : List Document)
  | object (fields : List (String × Document))

/-- A character of a string. -/
def escapeChar (c : Char) : List Char :=
  if c = '"' then ['\\', '"']
  else if c = '\\' then ['\\', '\\']
  else if c = '\n' then ['\\', 'n']
  else if c = '\r' then ['\\', 'r']
  else if c = '\t' then ['\\', 't']
  else if c = '\x08' then ['\\', 'b']
  else if c = '\x0c' then ['\\', 'f']
  else if c.toNat < 32 then '\\' :: 'u' :: Text.hexDigits c.toNat 4
  else [c]

/-- A string in its quotes. -/
def quote (s : String) : String :=
  String.ofList ('"' :: s.toList.flatMap escapeChar ++ ['"'])

/-- The start of a line at a level. -/
def newLine (level : Nat) : String :=
  String.ofList ('\n' :: List.replicate (2 * level) ' ')

/-- Parts between brackets, each on a line of its own. -/
def bracketed (level : Nat) (opening closing : String) (parts : List String) : String :=
  match parts with
  | [] => opening ++ closing
  | parts =>
    opening ++ newLine (level + 1) ++ ("," ++ newLine (level + 1)).intercalate parts ++
      newLine level ++ closing

mutual

/-- A document that starts at a level. -/
def write (level : Nat) : Document → String
  | .bool b => if b then "true" else "false"
  | .nat n => toString n
  | .text s => quote s
  | .list items => bracketed level "[" "]" (writeItems (level + 1) items)
  | .object fields => bracketed level "\x7b" "\x7d" (writeFields (level + 1) fields)

/-- The items of a list. -/
def writeItems (level : Nat) : List Document → List String
  | [] => []
  | d :: ds => write level d :: writeItems level ds

/-- The fields of an object. -/
def writeFields (level : Nat) : List (String × Document) → List String
  | [] => []
  | (k, d) :: fs => (quote k ++ ": " ++ write level d) :: writeFields level fs

end

end Stencil.Json
