import Stencil.Json.Reader
import Stencil.Yaml.Marks

set_option autoImplicit false

/-! # Scalars

The four ways to write a scalar: plain, in single quotes, in double quotes with escapes, and as a
block of lines after a `|` or a `>`. Where a scalar goes over several lines, a line end is read as a
space and empty lines as line breaks. -/

namespace Stencil.Yaml

/-- What was read, and the rest of the text. -/
abbrev Reading := Except Fault

/-- The spaces and line ends that a text starts with, as they count inside a plain scalar, and the
    rest; no rest if a document ends there. -/
def plainGap (ms : Marks) : List Char × Marks :=
  let spaces := ms.takeWhile (·.char == ' ')
  match ms.dropWhile (·.char == ' ') with
  | [] => ([], [])
  | m :: rest =>
    if isBreak m.char then
      let inner := rest.takeWhile fun m => m.char == ' ' || isBreak m.char
      let after := rest.dropWhile fun m => m.char == ' ' || isBreak m.char
      let empty := (inner.filter fun m => isBreak m.char).map fun m => breakChar m.char
      (foldedBreak m.char empty, after)
    else (spaces.map (·.char), m :: rest)

/-! ## Plain scalars -/

/-- Whether a plain scalar can start here. Inside brackets fewer characters can start one. -/
def startsPlain (inFlow : Bool) : Marks → Bool
  | [] => false
  | m :: ms =>
    let c := m.char
    !(isGap c || "-?:,[]\x7b\x7d#&*!|>'\"%@`".toList.contains c) ||
      (!startsGap ms && (c == '-' || (!inFlow && (c == '?' || c == ':'))))

/-- The characters of a plain scalar up to the next gap, and the rest. -/
def plainRun (inFlow : Bool) : Marks → List Char × Marks
  | [] => ([], [])
  | m :: ms =>
    let c := m.char
    let stops :=
      isGap c ||
        (c == ':' &&
          (startsGap ms ||
            (inFlow && (ms.head?.any fun n => ",[]\x7b\x7d".toList.contains n.char)))) ||
        (inFlow && ",?[]\x7b\x7d".toList.contains c)
    if stops then ([], m :: ms)
    else
      let (cs, rest) := plainRun inFlow ms
      (c :: cs, rest)

/-- Goes on with a plain scalar. Outside brackets the lines that belong to it start at column
    `least` or later. Every step takes a character, so `fuel` of the length of the text is
    enough. -/
def plainRest (inFlow : Bool) (least : Nat) (acc gap : List Char) :
    Nat → Marks → List Char × Marks
  | 0, ms => (acc, ms)
  | fuel + 1, ms =>
    match plainRun inFlow ms with
    | ([], rest) => (acc, rest)
    | (run, rest) =>
      let acc := acc ++ gap ++ run
      let (gap, next) := plainGap rest
      let ends :=
        gap.isEmpty || atDivider next ||
          (next.head?.any fun m => m.char == '#' || (!inFlow && m.column < least))
      if ends then (acc, next) else plainRest inFlow least acc gap fuel next

/-- Reads a plain scalar. -/
def readPlain (inFlow : Bool) (least : Nat) (ms : Marks) : List Char × Marks :=
  plainRest inFlow least [] [] (ms.length + 1) ms

/-! ## Quoted scalars -/

/-- The spaces and line ends that a text starts with, as they count inside quotes, and the rest. -/
def quotedGap (ms : Marks) : Reading (List Char × Marks) :=
  let isSpace (m : Mark) : Bool := m.char == ' ' || m.char == '\t'
  match ms.dropWhile isSpace with
  | [] => .error .malformed
  | m :: rest =>
    if isBreak m.char then
      let inner := rest.takeWhile fun m => isSpace m || isBreak m.char
      let after := rest.dropWhile fun m => isSpace m || isBreak m.char
      let empty := (inner.filter fun m => isBreak m.char).map fun m => breakChar m.char
      if atDivider after then .error .malformed else .ok (foldedBreak m.char empty, after)
    else .ok ((ms.takeWhile isSpace).map (·.char), m :: rest)

/-- Reads a scalar after its single quote; two quotes are one in it. -/
def readSingle (acc : List Char) : Nat → Marks → Reading (List Char × Marks)
  | 0, _ => .error .malformed
  | _, [] => .error .malformed
  | fuel + 1, m :: ms =>
    if m.char = '\'' then
      match ms with
      | n :: rest => if n.char = '\'' then readSingle (acc ++ ['\'']) fuel rest else .ok (acc, ms)
      | [] => .ok (acc, [])
    else if isGap m.char then do
      let (gap, rest) ← quotedGap (m :: ms)
      readSingle (acc ++ gap) fuel rest
    else readSingle (acc ++ [m.char]) fuel ms

/-- The character that a letter after a backslash stands for. -/
def escaped? : Char → Option Char
  | '0' => some '\x00'
  | 'a' => some '\x07'
  | 'b' => some '\x08'
  | 't' => some '\t'
  | '\t' => some '\t'
  | 'n' => some '\n'
  | 'v' => some '\x0b'
  | 'f' => some '\x0c'
  | 'r' => some '\r'
  | 'e' => some '\x1b'
  | ' ' => some ' '
  | '"' => some '"'
  | '\\' => some '\\'
  | '/' => some '/'
  | 'N' => some '\u0085'
  | '_' => some '\u00a0'
  | 'L' => some '\u2028'
  | 'P' => some '\u2029'
  | _ => none

/-- The number of digits after a letter that starts the code of a character. -/
def codeSize? : Char → Option Nat
  | 'x' => some 2
  | 'u' => some 4
  | 'U' => some 8
  | _ => none

/-- Reads a scalar after its double quote. -/
def readDouble (acc : List Char) : Nat → Marks → Reading (List Char × Marks)
  | 0, _ => .error .malformed
  | _, [] => .error .malformed
  | fuel + 1, m :: ms =>
    if m.char = '"' then .ok (acc, ms)
    else if m.char = '\\' then
      match ms with
      | [] => .error .malformed
      | n :: rest =>
        match escaped? n.char, codeSize? n.char with
        | some c, _ => readDouble (acc ++ [c]) fuel rest
        | none, some size =>
          let ds := (rest.take size).filterMap fun m => Json.hexDigit? m.char
          if ds.length = size then
            readDouble (acc ++ [Char.ofNat (ds.foldl (fun n d => 16 * n + d) 0)]) fuel
              (rest.drop size)
          else .error .malformed
        | none, none =>
          if isBreak n.char then do
            let inner := rest.takeWhile fun m => isGap m.char
            let empty := (inner.filter fun m => isBreak m.char).map fun m => breakChar m.char
            let after := rest.dropWhile fun m => isGap m.char
            if atDivider after then .error .malformed else readDouble (acc ++ empty) fuel after
          else .error .malformed
    else if isGap m.char then do
      let (gap, rest) ← quotedGap (m :: ms)
      readDouble (acc ++ gap) fuel rest
    else readDouble (acc ++ [m.char]) fuel ms

/-! ## Blocks of lines -/

/-- What becomes of the line ends after a block. -/
inductive Chomping where
  | clip
  | strip
  | keep

/-- The head of a block after its sign: what becomes of the line ends, and by how much the block is
    indented if that is said. -/
def blockHead : List Char → Option (Chomping × Option Nat)
  | [] => some (.clip, none)
  | ['+'] => some (.keep, none)
  | ['-'] => some (.strip, none)
  | [c] => if '1' ≤ c && c ≤ '9' then some (.clip, some (c.toNat - 48)) else none
  | [c, d] =>
    let digit (c : Char) : Option Nat := if '1' ≤ c && c ≤ '9' then some (c.toNat - 48) else none
    let sign (c : Char) : Option Chomping :=
      if c = '+' then some .keep else if c = '-' then some .strip else none
    match sign c, digit d, digit c, sign d with
    | some s, some n, _, _ => some (s, some n)
    | _, _, some n, some s => some (s, some n)
    | _, _, _, _ => none
  | _ => none

/-- The lines of a block and the rest: the lines that are indented to a column, cut there, and blank
    lines in between. -/
def blockLines (column : Nat) : Nat → Marks → List (List Char) × Marks
  | 0, ms => ([], ms)
  | _, [] => ([], [])
  | fuel + 1, ms =>
    let line := ms.takeWhile fun m => !isBreak m.char
    let after := (ms.dropWhile fun m => !isBreak m.char).drop 1
    let indent := (line.takeWhile (·.char == ' ')).length
    if indent = line.length && indent ≤ column then
      let (ls, rest) := blockLines column fuel after
      ([] :: ls, rest)
    else if indent < column then ([], ms)
    else
      let (ls, rest) := blockLines column fuel after
      ((line.drop column).map (·.char) :: ls, rest)

/-- The column of the first line of a block that is not blank, but no less than `least`. -/
def blockColumn (least : Nat) (ms : Marks) : Nat :=
  match ms.dropWhile fun m => m.char == ' ' || isBreak m.char with
  | [] => least
  | m :: _ => max least m.column

/-- The lines of a block with the line ends between them, where lines that follow each other without
    an indent are joined by spaces if `folded`. -/
def joinLines (folded : Bool) : List (List Char) → List Char
  | [] => []
  | [l] => l
  | l :: m :: ls =>
    let starts (l : List Char) : Bool := l.head?.any fun c => c == ' ' || c == '\t'
    if folded && !l.isEmpty && !starts l then
      match (m :: ls).span List.isEmpty with
      | ([], _) => l ++ (if starts m then '\n' else ' ') :: joinLines folded (m :: ls)
      | (_, next :: _) =>
        if starts next then l ++ '\n' :: joinLines folded (m :: ls)
        else l ++ joinLines folded (m :: ls)
      | (_, []) => l ++ joinLines folded (m :: ls)
    else l ++ '\n' :: joinLines folded (m :: ls)

/-- Reads a block after its sign, inside a node that is indented to `indent`. -/
def readBlock (folded : Bool) (indent : Int) (ms : Marks) : Reading (List Char × Marks) :=
  let head := ms.takeWhile fun m => !isGap m.char
  let tail := ms.dropWhile fun m => !isGap m.char
  let comment := (tail.dropWhile (·.char == ' ')).takeWhile fun m => !isBreak m.char
  if !(comment.isEmpty || (comment.head?.any (·.char == '#') && !tail.isEmpty)) then
    .error .malformed
  else
    match blockHead (head.map (·.char)) with
    | none => .error .malformed
    | some (chomping, step) =>
      let body := (ms.dropWhile fun m => !isBreak m.char).drop 1
      let least := max 1 (indent + 1).toNat
      let column :=
        match step with
        | some n => least + n - 1
        | none => blockColumn least body
      let (lines, rest) := blockLines column (body.length + 1) body
      let kept := (lines.reverse.dropWhile List.isEmpty).reverse
      let blanks := lines.length - kept.length
      let text := joinLines folded kept
      let ends :=
        match chomping with
        | .strip => []
        | .clip => if kept.isEmpty then [] else ['\n']
        | .keep => List.replicate (blanks + (if kept.isEmpty then 0 else 1)) '\n'
      .ok (text ++ ends, rest)

end Stencil.Yaml
