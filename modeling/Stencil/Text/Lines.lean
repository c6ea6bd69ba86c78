set_option autoImplicit false

/-! # Lines and pieces

Texts apart at a separator, and the characters that end lines. -/

namespace Stencil

/-- The pieces of a text between the separators; there is one more than there are separators. -/
def splitOn (separator : Char) : List Char → List (List Char)
  | [] => [[]]
  | c :: cs =>
    if c = separator then [] :: splitOn separator cs
    else
      match splitOn separator cs with
      | [] => [[c]]
      | piece :: pieces => (c :: piece) :: pieces

/-- The pieces are those that core splits a list into. -/
theorem splitOn_eq (separator : Char) (cs : List Char) :
    splitOn separator cs = cs.splitOn separator := by
  induction cs with
  | nil => rfl
  | cons c cs ih =>
      rw [splitOn, ih, List.splitOn_cons_eq_if_modifyHead]
      by_cases hc : c = separator
      · rw [if_pos hc, if_pos (beq_iff_eq.2 hc)]
      · rw [if_neg hc, if_neg (mt beq_iff_eq.1 hc)]
        cases h : cs.splitOn separator with
        | nil => exact absurd h (List.splitOn_ne_nil separator cs)
        | cons piece pieces => rfl

theorem splitOn_ne_nil (separator : Char) (cs : List Char) : splitOn separator cs ≠ [] := by
  rw [splitOn_eq]
  exact List.splitOn_ne_nil separator cs

/-- The pieces of two texts joined by a separator are the pieces of the one and of the other. -/
theorem splitOn_join (separator : Char) (cs ds : List Char) :
    splitOn separator (cs ++ separator :: ds) = splitOn separator cs ++ splitOn separator ds := by
  rw [splitOn_eq, splitOn_eq, splitOn_eq, List.splitOn_append_cons_self]

theorem not_mem_of_mem_splitOn {separator : Char} {cs piece : List Char}
    (h : piece ∈ splitOn separator cs) : separator ∉ piece := by
  induction cs generalizing piece with
  | nil =>
      rw [splitOn, List.mem_singleton] at h
      rw [h]
      exact List.not_mem_nil
  | cons c cs ih =>
      rw [splitOn] at h
      split at h
      · rcases List.mem_cons.1 h with rfl | h
        · exact List.not_mem_nil
        · exact ih h
      · rename_i hc
        split at h
        · rename_i hnil
          exact absurd hnil (splitOn_ne_nil separator cs)
        · rename_i first pieces hsplit
          rw [hsplit] at ih
          rcases List.mem_cons.1 h with rfl | h
          · intro hmem
            rcases List.mem_cons.1 hmem with heq | hmem
            · exact hc heq.symm
            · exact ih List.mem_cons_self hmem
          · exact ih (List.mem_cons_of_mem _ h)

namespace Text

/-- Whether a line ends at a character. -/
def endsLine (c : Char) : Bool :=
  let n := c.toNat
  (10 ≤ n && n ≤ 13) || (28 ≤ n && n ≤ 30) || n == 0x85 || n == 0x2028 || n == 0x2029

/-- A text with a line break for a carriage return, with or without one after it. -/
def unifiedLines : List Char → List Char
  | '\r' :: '\n' :: cs => '\n' :: unifiedLines cs
  | '\r' :: cs => '\n' :: unifiedLines cs
  | c :: cs => c :: unifiedLines cs
  | [] => []

end Text

end Stencil
