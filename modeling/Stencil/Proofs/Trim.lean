import Mathlib.Data.List.DropRight
import Stencil.Text.Blank

set_option autoImplicit false

/-! # Trimming

A text is blanks, what trimming leaves, and blanks again (`exists_eq_pad`), and trimming takes such
padding off whatever it is put around (`trim_pad`). -/

namespace Stencil.Text

/-- Nothing but blanks. -/
def Blank (cs : List Char) : Prop :=
  ∀ c ∈ cs, isBlank c = true

theorem blank_nil : Blank [] :=
  fun _ h => nomatch h

theorem blank_append {as bs : List Char} : Blank (as ++ bs) ↔ Blank as ∧ Blank bs :=
  List.forall_mem_append

theorem Blank.filter_eq_nil {cs : List Char} (h : Blank cs) : cs.filter (!isBlank ·) = [] := by
  rw [List.filter_eq_nil_iff]
  intro c hc
  simp [h c hc]

theorem trimLeft_eq_nil_iff {cs : List Char} : trimLeft cs = [] ↔ Blank cs :=
  List.dropWhile_eq_nil_iff

theorem trimRight_eq_nil_iff {cs : List Char} : trimRight cs = [] ↔ Blank cs :=
  List.rdropWhile_eq_nil_iff

theorem trimLeft_append {cs : List Char} (hcs : ¬ Blank cs) (bs : List Char) :
    trimLeft (cs ++ bs) = trimLeft cs ++ bs := by
  have hne : (cs.dropWhile isBlank).isEmpty = false := by
    rw [List.isEmpty_eq_false_iff]
    exact mt trimLeft_eq_nil_iff.1 hcs
  rw [trimLeft, List.dropWhile_append, hne, if_neg Bool.false_ne_true]
  rfl

theorem exists_eq_append_trimLeft (cs : List Char) :
    ∃ as, Blank as ∧ cs = as ++ trimLeft cs :=
  ⟨cs.takeWhile isBlank, fun _ h => List.mem_takeWhile_imp h, List.takeWhile_append_dropWhile.symm⟩

theorem exists_eq_trimRight_append (cs : List Char) :
    ∃ bs, Blank bs ∧ cs = trimRight cs ++ bs := by
  obtain ⟨as, has, h⟩ := exists_eq_append_trimLeft cs.reverse
  refine ⟨as.reverse, fun c hc => has c (List.mem_reverse.1 hc), ?_⟩
  rw [trimRight, ← List.reverse_append, ← h, List.reverse_reverse]

/-- Nothing is left of a text just if all of it is blank. -/
theorem trim_eq_nil_iff {cs : List Char} : trim cs = [] ↔ Blank cs := by
  rw [trim, trimRight_eq_nil_iff]
  refine ⟨fun h => ?_, fun h => ?_⟩
  · obtain ⟨as, has, hcs⟩ := exists_eq_append_trimLeft cs
    rw [hcs]
    exact blank_append.2 ⟨has, h⟩
  · rw [trimLeft_eq_nil_iff.2 h]
    exact blank_nil

/-- Trimming takes nothing but blanks off a text. -/
theorem exists_eq_pad (cs : List Char) :
    ∃ as bs, Blank as ∧ Blank bs ∧ cs = as ++ trim cs ++ bs := by
  obtain ⟨as, has, hleft⟩ := exists_eq_append_trimLeft cs
  obtain ⟨bs, hbs, hright⟩ := exists_eq_trimRight_append (trimLeft cs)
  refine ⟨as, bs, has, hbs, ?_⟩
  rw [List.append_assoc, trim, ← hright, ← hleft]

/-- Padding makes no difference to what trimming leaves. -/
theorem trim_pad {as bs : List Char} (has : Blank as) (hbs : Blank bs) (cs : List Char) :
    trim (as ++ cs ++ bs) = trim cs := by
  by_cases hcs : Blank cs
  · rw [trim_eq_nil_iff.2 hcs]
    exact trim_eq_nil_iff.2 (blank_append.2 ⟨blank_append.2 ⟨has, hcs⟩, hbs⟩)
  · have hreverse : Blank bs.reverse := fun c hc => hbs c (List.mem_reverse.1 hc)
    have hleft : trimLeft (as ++ (cs ++ bs)) = trimLeft (cs ++ bs) :=
      List.dropWhile_append_of_pos has
    have hright : trimLeft (bs.reverse ++ (trimLeft cs).reverse) = trimLeft (trimLeft cs).reverse :=
      List.dropWhile_append_of_pos hreverse
    rw [List.append_assoc, trim, hleft, trimLeft_append hcs, trimRight, List.reverse_append, hright]
    rfl

@[simp] theorem trim_trim (cs : List Char) : trim (trim cs) = trim cs := by
  obtain ⟨as, bs, has, hbs, h⟩ := exists_eq_pad cs
  calc trim (trim cs) = trim (as ++ trim cs ++ bs) := (trim_pad has hbs _).symm
    _ = trim cs := by rw [← h]

/-- A trimmed text is empty or has a character that is not blank. -/
theorem exists_not_isBlank {cs : List Char} (h : trim cs ≠ []) :
    ∃ c ∈ trim cs, isBlank c = false := by
  by_contra! hblank
  refine h ?_
  rw [← trim_trim, trim_eq_nil_iff]
  exact fun c hc => eq_true_of_ne_false (hblank c hc)

theorem trimLeft_eq_self_iff {cs : List Char} :
    trimLeft cs = cs ↔ ∀ c ∈ cs.head?, isBlank c = false := by
  cases cs with
  | nil => exact ⟨fun _ => nofun, fun _ => rfl⟩
  | cons c cs => simp [trimLeft, List.dropWhile_eq_self_iff]

theorem trimRight_eq_self_iff {cs : List Char} :
    trimRight cs = cs ↔ ∀ c ∈ cs.getLast?, isBlank c = false := by
  rw [trimRight, List.reverse_eq_iff, trimLeft_eq_self_iff, List.head?_reverse]

/-- A text is trimmed if it neither starts nor ends with a blank. -/
theorem trim_eq_self_iff {cs : List Char} :
    trim cs = cs ↔ (∀ c ∈ cs.head?, isBlank c = false) ∧ ∀ c ∈ cs.getLast?, isBlank c = false := by
  rw [← trimLeft_eq_self_iff, ← trimRight_eq_self_iff]
  refine ⟨fun h => ?_, fun ⟨hleft, hright⟩ => by rw [trim, hleft, hright]⟩
  -- Neither of the two passes takes anything off, since both together do not.
  obtain ⟨as, -, hleft⟩ := exists_eq_append_trimLeft cs
  obtain ⟨bs, -, hright⟩ := exists_eq_trimRight_append (trimLeft cs)
  have hsame : trimRight (trimLeft cs) = cs := h
  have hlengths := congrArg List.length hleft
  have hlengths' := congrArg List.length hright
  rw [List.length_append] at hlengths hlengths'
  rw [hsame] at hlengths'
  have has : as = [] := List.eq_nil_of_length_eq_zero (by omega)
  have hkept : trimLeft cs = cs := by
    rw [has] at hleft
    exact hleft.symm
  rw [hkept] at hsame
  exact ⟨hkept, hsame⟩

/-- A trimmed text does not end in blanks. -/
theorem not_blank_of_trim_append {as bs : List Char} (h : trim (as ++ bs) = as ++ bs)
    (hne : bs ≠ []) : ¬ Blank bs := by
  intro hblank
  have hlast := (trim_eq_self_iff.1 h).2
  rw [List.getLast?_append_of_ne_nil _ hne, List.getLast?_eq_some_getLast hne] at hlast
  have hnot := hlast _ rfl
  rw [hblank _ (List.getLast_mem hne)] at hnot
  cases hnot

end Stencil.Text
