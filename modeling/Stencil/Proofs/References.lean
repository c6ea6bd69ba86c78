import Stencil.Config.Reference
import Stencil.Proofs.Spelling

set_option autoImplicit false

/-! # The references of a text

`Fragment.Leftmost` says what the references of a text are: reading from the left, what starts as a
reference that can be written is one, and reading goes on after it; any other character is text.
`leftmost_iff` says that `Fragment.scan` finds these, so that a text has its references in one way
only. -/

namespace Stencil

namespace Reference

/-! ## References that can be written -/

/-- References that can be written: a name starts with a letter of ASCII or an underscore and goes
    on with word characters, and a modifier has no closing brace. -/
structure WellFormed (r : Reference) : Prop where
  name : ∃ c cs, r.name = c :: cs ∧ isNameStart c = true ∧ ∀ d ∈ cs, Text.isWord d = true
  modifier : ∀ m ∈ r.modifier, ∃ c cs, m = c :: cs ∧ isModifierStart c = true ∧ '}' ∉ cs

/-- A reference stands at the start of the text. -/
def StartsText (cs : List Char) : Prop :=
  ∃ r rest, WellFormed r ∧ cs = r.source ++ rest

/-- No name goes on with the character that a modifier starts with, and no modifier starts with a
    closing brace. -/
theorem of_isModifierStart {c : Char} (h : isModifierStart c = true) :
    Text.isWord c = false ∧ c ≠ '}' := by
  simp only [isModifierStart, Bool.or_eq_true, beq_iff_eq] at h
  rcases h with (rfl | rfl) | rfl <;> decide +kernel

theorem source_append (r : Reference) (rest : List Char) :
    r.source ++ rest = '$' :: '{' :: (r.name ++ (r.modifier.getD [] ++ '}' :: rest)) := by
  simp [source]

/-- What is written as a reference is read as it. -/
theorem rest?_of_wellFormed {r : Reference} (h : r.WellFormed) (rest : List Char) :
    rest? (r.name ++ (r.modifier.getD [] ++ '}' :: rest)) = some (r, rest) := by
  obtain ⟨name, modifier⟩ := r
  obtain ⟨⟨c, cs, rfl, hc, hcs⟩, hmodifier⟩ := h
  cases modifier with
  | none =>
      have hend : ∀ d ∈ ('}' :: rest).head?, Text.isWord d = false := by
        rintro d ⟨⟩
        decide +kernel
      simp only [Option.getD_none, List.nil_append, List.cons_append, rest?, if_pos hc]
      rw [Text.takeWhile_append_eq_left hcs hend, Text.dropWhile_append_eq_right hcs hend]
      rfl
  | some m =>
      obtain ⟨d, ds, rfl, hd, hds⟩ := hmodifier m rfl
      obtain ⟨hword, hbrace⟩ := of_isModifierStart hd
      have hend : ∀ e ∈ (d :: (ds ++ '}' :: rest)).head?, Text.isWord e = false := by
        rintro e ⟨⟩
        exact hword
      have hopen : ∀ e ∈ ds, decide (e ≠ '}') = true := by
        intro e he
        exact decide_eq_true fun heq => hds (heq ▸ he)
      have hclosed : ∀ e ∈ ('}' :: rest).head?, decide (e ≠ '}') = false := by
        rintro e ⟨⟩
        rfl
      simp only [Option.getD_some, List.cons_append, rest?, if_pos hc]
      rw [Text.takeWhile_append_eq_left hcs hend, Text.dropWhile_append_eq_right hcs hend]
      simp only [if_neg hbrace, if_pos hd]
      rw [Text.takeWhile_append_eq_left hopen hclosed, Text.dropWhile_append_eq_right hopen hclosed]

/-- What is read as a reference is written as it. -/
theorem of_rest?_eq_some {cs rest : List Char} {r : Reference} (h : rest? cs = some (r, rest)) :
    r.WellFormed ∧ '$' :: '{' :: cs = r.source ++ rest := by
  cases cs with
  | nil => cases h
  | cons c cs =>
      have hname := List.takeWhile_append_dropWhile (p := Text.isWord) (l := cs)
      have hword : ∀ d ∈ cs.takeWhile Text.isWord, Text.isWord d = true :=
        fun d hd => List.mem_takeWhile_imp hd
      simp only [rest?] at h
      split at h
      case isFalse => cases h
      rename_i hc
      split at h
      · cases h
      rename_i d ds hd
      rw [hd] at hname
      split at h
      · rename_i hbrace
        subst hbrace
        cases h
        refine ⟨⟨⟨c, _, rfl, hc, hword⟩, ?_⟩, ?_⟩
        · rintro m ⟨⟩
        · rw [source_append]
          simp [hname]
      split at h
      case isFalse => cases h
      rename_i hstart
      split at h
      · cases h
      rename_i e es he
      have hmodifier := List.takeWhile_append_dropWhile (p := (· ≠ '}')) (l := ds)
      have hbrace : e = '}' := by
        have hnot := List.head?_dropWhile_not (· ≠ '}') ds
        rw [he] at hnot
        simpa using hnot
      have hopen : '}' ∉ ds.takeWhile (· ≠ '}') := by
        intro hmem
        have hne := List.mem_takeWhile_imp hmem
        simp at hne
      subst hbrace
      cases h
      refine ⟨⟨⟨c, _, rfl, hc, hword⟩, ?_⟩, ?_⟩
      · rintro m ⟨⟩
        exact ⟨d, _, rfl, hstart, hopen⟩
      · rw [he] at hmodifier
        rw [source_append]
        simp only [Option.getD_some, List.cons_append, hmodifier, hname]

end Reference

namespace Fragment

open Reference

/-! ## Reading from the left -/

/-- The text has these references, with this text between them. -/
inductive Leftmost : List Char → List Fragment → Prop
  | nil : Leftmost [] []
  | reference {r : Reference} {rest : List Char} {fs : List Fragment} :
      r.WellFormed → Leftmost rest fs → Leftmost (r.source ++ rest) (.reference r :: fs)
  | text {c : Char} {cs : List Char} {fs : List Fragment} :
      ¬ StartsText (c :: cs) → Leftmost cs fs → Leftmost (c :: cs) (consText c fs)

theorem leftmost_scan (cs : List Char) : Leftmost cs (scan cs) := by
  fun_induction scan cs with
  | case1 => exact .nil
  | case2 cs r rest h _ ih =>
      obtain ⟨hr, hcs⟩ := of_rest?_eq_some h
      rw [hcs]
      exact .reference hr ih
  | case3 cs h ih =>
      refine .text ?_ ih
      rintro ⟨r, rest, hr, hcs⟩
      rw [source_append] at hcs
      obtain ⟨-, hcs⟩ := List.cons.inj hcs
      obtain ⟨-, rfl⟩ := List.cons.inj hcs
      rw [rest?_of_wellFormed hr] at h
      cases h
  | case4 c cs hc ih =>
      refine .text ?_ ih
      rintro ⟨r, rest, -, hcs⟩
      rw [source_append] at hcs
      obtain ⟨rfl, rfl⟩ := List.cons.inj hcs
      exact hc _ rfl rfl

theorem scan_source_append {r : Reference} (h : r.WellFormed) (rest : List Char) :
    scan (r.source ++ rest) = .reference r :: scan rest := by
  rw [source_append, scan]
  split
  · rename_i r' rest' hrest
    rw [rest?_of_wellFormed h] at hrest
    cases hrest
    rfl
  · rename_i hrest
    rw [rest?_of_wellFormed h] at hrest
    cases hrest

theorem scan_cons {c : Char} {cs : List Char} (h : ¬ StartsText (c :: cs)) :
    scan (c :: cs) = consText c (scan cs) := by
  rw [scan.eq_def]
  split
  · rename_i heq
    cases heq
  · rename_i ds heq
    cases heq
    split
    · rename_i r rest hrest
      exact absurd ⟨r, rest, of_rest?_eq_some hrest⟩ h
    · rfl
  · rename_i heq
    cases heq
    rfl

/-- The scan finds the references of a text, and a text has no others. -/
theorem leftmost_iff {cs : List Char} {fs : List Fragment} : Leftmost cs fs ↔ scan cs = fs := by
  constructor
  · intro h
    induction h with
    | nil => rw [scan]
    | reference hr _ ih => rw [scan_source_append hr, ih]
    | text hc _ ih => rw [scan_cons hc, ih]
  · rintro rfl
    exact leftmost_scan cs

/-! ## What the fragments are -/

theorem source_consText (c : Char) (fs : List Fragment) :
    (consText c fs).flatMap source = c :: fs.flatMap source := by
  unfold consText
  split <;> simp [source]

theorem reference_mem_consText {r : Reference} {c : Char} {fs : List Fragment} :
    .reference r ∈ consText c fs ↔ .reference r ∈ fs := by
  unfold consText
  split <;> simp

/-- The fragments of a text make up the text. -/
theorem Leftmost.flatMap_source {cs : List Char} {fs : List Fragment} (h : Leftmost cs fs) :
    fs.flatMap source = cs := by
  induction h with
  | nil => rfl
  | reference _ _ ih => rw [List.flatMap_cons, ih, source]
  | text _ _ ih => rw [source_consText, ih]

theorem Leftmost.wellFormed {cs : List Char} {fs : List Fragment} (h : Leftmost cs fs)
    {r : Reference} (hr : .reference r ∈ fs) : r.WellFormed := by
  induction h with
  | nil => cases hr
  | reference hfirst _ ih =>
      cases hr with
      | head => exact hfirst
      | tail _ hr => exact ih hr
  | text _ _ ih => exact ih (reference_mem_consText.1 hr)

/-- A text is one whole reference just if it is written so. -/
theorem leftmost_reference_iff {cs : List Char} {r : Reference} :
    Leftmost cs [.reference r] ↔ r.WellFormed ∧ cs = r.source := by
  constructor
  · intro h
    have hsource := h.flatMap_source
    rw [List.flatMap_singleton, source] at hsource
    exact ⟨h.wellFormed List.mem_cons_self, hsource.symm⟩
  · rintro ⟨hr, rfl⟩
    have h := Leftmost.reference hr .nil
    rwa [List.append_nil] at h

end Fragment

end Stencil
