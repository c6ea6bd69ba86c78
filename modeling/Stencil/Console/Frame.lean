import Stencil.Console.Line
import Stencil.Text.Lines

set_option autoImplicit false

/-! # Frames and tables

Texts in frames with a title, and tables. Every row of a frame takes the same number of cells. -/

namespace Stencil.Console

-- The empty sum is the numeral, whatever other structure the numbers are given.
attribute [local instance (2000)] Zero.ofOfNat0

/-! ## Cells -/

/-- As much of a text as fits into some cells, and blanks in the cells that are left. -/
def fit : Nat → List Char → List Char
  | cells, [] => List.replicate cells ' '
  | cells, c :: cs =>
    if Text.charWidth c ≤ cells then c :: fit (cells - Text.charWidth c) cs
    else List.replicate cells ' '

/-- A text in the middle of some cells; an odd blank is on its right. -/
def centred (filler : Char) (cells : Nat) (text : String) : String :=
  let free := cells - Text.width text
  String.ofList (List.replicate (free / 2) filler ++ text.toList ++
    List.replicate (free - free / 2) filler)

/-- The same character in some cells. -/
def ruled (filler : Char) (cells : Nat) : String :=
  String.ofList (List.replicate cells filler)

/-! ## Frames -/

/-- The columns of the terminal. -/
def columns : Nat := 200

/-- The columns from one tab stop in a frame to the next. -/
def frameTabStop : Nat := 4

/-- The cells of the widest line of a text, where a tab takes none. -/
def widest (cs : List Char) : Nat :=
  let step (acc : Nat × Nat) (c : Char) : Nat × Nat :=
    if Text.endsLine c then (max acc.1 acc.2, 0) else (acc.1, acc.2 + Text.charWidth c)
  let (most, last) := cs.foldl step (0, 0)
  max most last

/-- The rows of a text in a frame. A line break at the end makes a row without text. -/
def rows (text : String) : List (List Char) :=
  let cs := text.toList
  let broken (cs : List Char) : List Char :=
    let cs := withoutTabs frameTabStop (fun _ => 1) 0 cs
    (Text.unifiedLines (if cs.head? = some '\ufeff' then cs.drop 1 else cs)).filter fun c =>
      !movesCursor c
  splitOn '\n'
    (if cs.getLast? = some '\n' then broken cs else (broken (cs ++ ['\n'])).dropLast)

/-- A text in a frame with a title. -/
def frame (title text : String) : String :=
  let title := " " ++ title ++ " "
  let cells := min (columns - 4) (max (widest text.toList) (Text.width title))
  let row (cs : List Char) : String := "│ " ++ String.ofList (fit cells cs) ++ " │\n"
  "╭" ++ centred '─' (cells + 2) title ++ "╮\n" ++ String.join ((rows text).map row) ++
    "╰" ++ ruled '─' (cells + 2) ++ "╯\n"

/-! ## Tables -/

/-- The cells that each column of a table needs. -/
def columnWidths (header : List String) (body : List (List String)) : List Nat :=
  body.foldl (fun widths row => List.zipWith max widths (row.map Text.width))
    (header.map Text.width)

/-- A row of a table. -/
def tableRow (bar : String) (widths : List Nat) (row : List String) : String :=
  let cell (cells : Nat) (text : String) : String :=
    " " ++ String.ofList (fit cells text.toList) ++ " "
  bar ++ bar.intercalate (List.zipWith cell widths row) ++ bar ++ "\n"

/-- A rule of a table. -/
def tableRule (left : String) (filler : Char) (middle right : String) (widths : List Nat) :
    String :=
  left ++ middle.intercalate (widths.map fun w => ruled filler (w + 2)) ++ right ++ "\n"

/-- A table with a title and a header. -/
def table (title : String) (header : List String) (body : List (List String)) : String :=
  let widths := columnWidths header body
  let cells := (widths.map (· + 3)).sum + 1
  centred ' ' cells title ++ "\n" ++ tableRule "┏" '━' "┳" "┓" widths ++
    tableRow "┃" widths header ++ tableRule "┡" '━' "╇" "┩" widths ++
    String.join (body.map (tableRow "│" widths)) ++ tableRule "└" '─' "┴" "┘" widths

example : frame "T" "wide" = "╭─ T ──╮\n│ wide │\n╰──────╯\n" := by decide +kernel

end Stencil.Console
