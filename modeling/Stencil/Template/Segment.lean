set_option autoImplicit false

/-! # Tags in a text

A template is a text with tags: two opening braces, a body of one or more characters other than a
closing brace, and two closing braces. Reading from the left, a tag starts at the first two opening
braces that can be closed so; braces that cannot are ordinary text.

`scan_source` says that scanning loses nothing. -/

namespace Stencil

/-- A maximal run of text without a tag, or the body of a tag. -/
inductive Segment where
  | text (cs : List Char)
  | tag (body : List Char)
  deriving DecidableEq, Repr

namespace Segment

/-- The part of the template that a segment stands for. -/
def source : Segment → List Char
  | .text cs => cs
  | .tag body => '{' :: '{' :: body ++ ['}', '}']

/-- The body and what comes after the tag, when the text after two opening braces closes them. -/
def tagBody? (cs : List Char) : Option (List Char × List Char) :=
  match cs.takeWhile (· ≠ '}'), cs.dropWhile (· ≠ '}') with
  | c :: body, '}' :: '}' :: rest => some (c :: body, rest)
  | _, _ => none

theorem tagBody?_eq_some {cs body rest : List Char} (h : tagBody? cs = some (body, rest)) :
    cs = body ++ '}' :: '}' :: rest ∧ body ≠ [] ∧ ∀ c ∈ body, c ≠ '}' := by
  have hp : ∀ c ∈ cs.takeWhile (· ≠ '}'), c ≠ '}' := by
    intro c hc
    simpa using List.all_eq_true.1 List.all_takeWhile c hc
  have hs : cs.takeWhile (· ≠ '}') ++ cs.dropWhile (· ≠ '}') = cs := List.takeWhile_append_dropWhile
  unfold tagBody? at h
  split at h
  · rename_i c b r ht hd
    simp only [Option.some.injEq, Prod.mk.injEq] at h
    obtain ⟨rfl, rfl⟩ := h
    rw [ht] at hp hs
    rw [hd] at hs
    exact ⟨hs.symm, by simp, hp⟩
  · cases h

theorem length_lt_of_tagBody? {cs body rest : List Char} (h : tagBody? cs = some (body, rest)) :
    rest.length < cs.length := by
  rw [(tagBody?_eq_some h).1]
  simp
  omega

/-- Puts a character in front of the text that the segments start with. -/
def consText (c : Char) : List Segment → List Segment
  | .text cs :: ss => .text (c :: cs) :: ss
  | ss => .text [c] :: ss

/-- The segments of a template. -/
def scan : List Char → List Segment
  | [] => []
  | '{' :: '{' :: cs =>
    match h : tagBody? cs with
    | some (body, rest) =>
      have := length_lt_of_tagBody? h
      .tag body :: scan rest
    | none => consText '{' (scan ('{' :: cs))
  | c :: cs => consText c (scan cs)
termination_by cs => cs.length

theorem source_consText (c : Char) (ss : List Segment) :
    (consText c ss).flatMap source = c :: ss.flatMap source := by
  unfold consText
  split <;> simp [source]

/-- The segments of a template make up the template. -/
theorem scan_source (cs : List Char) : (scan cs).flatMap source = cs := by
  fun_induction scan cs with
  | case1 => rfl
  | case2 cs body rest h _ ih =>
    simp [source, ih, (tagBody?_eq_some h).1]
  | case3 cs h ih => rw [source_consText, ih]
  | case4 c cs _ ih => rw [source_consText, ih]

end Segment

end Stencil
