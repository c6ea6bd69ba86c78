import Stencil.Text.Width

set_option autoImplicit false

/-! # Printed lines

How a text is printed as lines of a terminal without colours: tabs run to the next stop, characters
that would move the cursor are left out, and so is what marks up a text for colours. -/

namespace Stencil.Console

/-! ## Tabs and controls -/

/-- A text with blanks for its tabs, from a column on, where a character takes `width` columns. -/
def withoutTabs (stop : Nat) (width : Char → Nat) (column : Nat) : List Char → List Char
  | [] => []
  | c :: cs =>
    if c = '\t' then
      let blanks := stop - column % stop
      List.replicate blanks ' ' ++ withoutTabs stop width (column + blanks) cs
    else if c = '\n' || c = '\r' then c :: withoutTabs stop width 0 cs
    else c :: withoutTabs stop width (column + width c) cs

/-- Whether a character rings the bell or moves the cursor. -/
def movesCursor (c : Char) : Bool :=
  c = '\x07' || c = '\x08' || c = '\x0b' || c = '\x0c' || c = '\r'

/-- The columns from one tab stop of the terminal to the next. -/
def tabStop : Nat := 8

/-- A text as the terminal shows it. -/
def shown (cs : List Char) : List Char :=
  withoutTabs tabStop Text.charWidth 0 (cs.filter fun c => !movesCursor c)

/-! ## Markup -/

/-- Whether a bracket before this character can open a mark. -/
def startsMark (c : Char) : Bool :=
  c.isLower || c = '#' || c = '/' || c = '@'

/-- The mark that a text starts with, and what comes after it: text in brackets without a bracket
    inside. -/
def mark? : List Char → Option (List Char × List Char)
  | '[' :: c :: cs =>
    if startsMark c then
      match cs.dropWhile fun d => d ≠ '[' && d ≠ ']' with
      | ']' :: rest => some ('[' :: c :: cs.takeWhile (fun d => d ≠ '[' && d ≠ ']') ++ [']'], rest)
      | _ => none
    else none
  | _ => none

theorem length_lt_of_mark? {cs mark rest : List Char} (h : mark? cs = some (mark, rest)) :
    rest.length < cs.length := by
  unfold mark? at h
  split at h
  · rename_i c ds
    split at h
    · split at h
      · rename_i r hd
        simp only [Option.some.injEq, Prod.mk.injEq] at h
        obtain ⟨-, rfl⟩ := h
        have := (List.dropWhile_suffix (l := ds) fun d => d ≠ '[' && d ≠ ']').length_le
        rw [hd] at this
        simp only [List.length_cons] at this ⊢
        omega
      · cases h
    · cases h
  · cases h

/-- A text without its marks, after some backslashes. Before a mark, two backslashes stand for one,
    and one that is left makes the mark ordinary text. -/
def withoutMarks (slashes : Nat) : List Char → List Char
  | [] => List.replicate slashes '\\'
  | c :: cs =>
    match _ : mark? (c :: cs) with
    | some (mark, rest) =>
      List.replicate (slashes / 2) '\\' ++ (if slashes % 2 = 1 then mark else []) ++
        withoutMarks 0 rest
    | none =>
      if c = '\\' then withoutMarks (slashes + 1) cs
      else List.replicate slashes '\\' ++ c :: withoutMarks 0 cs
termination_by cs => cs.length
decreasing_by
  · exact length_lt_of_mark? ‹_›
  · simp
  · simp

/-! ## Lines -/

/-- A printed text. -/
def line (text : String) : String :=
  String.ofList (shown text.toList ++ ['\n'])

/-- A printed text whose marks are for colours. -/
def markedLine (text : String) : String :=
  line (String.ofList (withoutMarks 0 text.toList))

example : markedLine "a [red]b[/red] [B] \\[c]" = "a b [B] [c]\n" := by decide +kernel

example : line "\tx\r" = "        x\n" := by decide +kernel

end Stencil.Console
