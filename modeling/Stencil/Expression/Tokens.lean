import Stencil.Text.Blank
import Stencil.Text.Word

set_option autoImplicit false

/-! # Tokens

How the arguments of a call are told apart.

* `tokens` splits a text at blanks, but keeps a quoted text together, blanks and all. A quote that
  is never closed is an ordinary character, and so is a quote inside a token.
* `keywords` finds the pairs of a key and a token joined by an equals sign; what is no such pair is
  passed over. -/

namespace Stencil.Expression

open Text

/-- Whether a character can stand around a text. -/
def isQuote (c : Char) : Bool :=
  c == '"' || c == '\''

/-- The quoted text that a text starts with, with its quotes, and what comes after it. -/
def quotedStart? : List Char → Option (List Char × List Char)
  | [] => none
  | q :: cs =>
    if isQuote q then
      match cs.dropWhile (· ≠ q) with
      | [] => none
      | _ :: rest => some (q :: cs.takeWhile (· ≠ q) ++ [q], rest)
    else none

theorem length_dropWhile_le (p : Char → Bool) (cs : List Char) :
    (cs.dropWhile p).length ≤ cs.length :=
  (List.dropWhile_suffix p).length_le

theorem length_lt_of_quotedStart? {cs token rest : List Char}
    (h : quotedStart? cs = some (token, rest)) : rest.length < cs.length := by
  cases cs with
  | nil => simp [quotedStart?] at h
  | cons q cs =>
    simp only [quotedStart?] at h
    split at h
    · have hl := length_dropWhile_le (· ≠ q) cs
      split at h
      · cases h
      · rename_i c r hd
        simp only [Option.some.injEq, Prod.mk.injEq] at h
        rw [hd] at hl
        simp at hl
        simp [← h.2]
        omega
    · cases h

/-! ## Tokens between blanks -/

/-- The tokens of a text. -/
def tokens : List Char → List (List Char)
  | [] => []
  | c :: cs =>
    if isBlank c then tokens cs
    else
      match h : quotedStart? (c :: cs) with
      | some (token, rest) =>
        have := length_lt_of_quotedStart? h
        token :: tokens rest
      | none =>
        have := length_dropWhile_le (!isBlank ·) cs
        (c :: cs.takeWhile (!isBlank ·)) :: tokens (cs.dropWhile (!isBlank ·))
termination_by cs => cs.length
decreasing_by all_goals (simp only [List.length_cons] at *; omega)

/-! ## Pairs of a key and a token -/

/-- The token that a text starts with, up to a blank or an equals sign unless it is quoted, and what
    comes after it. -/
def valueStart? (cs : List Char) : Option (List Char × List Char) :=
  match quotedStart? cs with
  | some r => some r
  | none =>
    match cs.takeWhile fun c => c ≠ '=' && !isBlank c with
    | [] => none
    | token => some (token, cs.dropWhile fun c => c ≠ '=' && !isBlank c)

theorem length_le_of_valueStart? {cs token rest : List Char}
    (h : valueStart? cs = some (token, rest)) : rest.length ≤ cs.length := by
  unfold valueStart? at h
  split at h
  · rename_i r hr
    cases h
    exact Nat.le_of_lt (length_lt_of_quotedStart? hr)
  · split at h
    · cases h
    · simp only [Option.some.injEq, Prod.mk.injEq] at h
      rw [← h.2]
      exact length_dropWhile_le _ cs

/-- The keys of a text, each with its token. -/
def keywords : List Char → List (List Char × List Char)
  | [] => []
  | c :: cs =>
    if isWord c then
      have := length_dropWhile_le isWord cs
      match _h : cs.dropWhile isWord with
      | '=' :: after =>
        match hv : valueStart? after with
        | some (token, rest) =>
          have := length_le_of_valueStart? hv
          (c :: cs.takeWhile isWord, token) :: keywords rest
        | none => keywords after
      | rest => keywords rest
    else keywords cs
termination_by cs => cs.length
decreasing_by all_goals (simp_all <;> omega)

end Stencil.Expression
