import Stencil.Files.Glob
import Stencil.Files.Location

set_option autoImplicit false

/-! # Names with an ending

A name fits the pattern of a star before an ending if it ends so (`Glob.accepts_star`). Its stem is
what comes before its last point, which need not be where the ending starts. But names with the same
ending lose the same characters at their ends, so that different ones keep different stems
(`Location.splitName_injective`). -/

namespace Stencil

/-! ## Patterns of a star and an ending -/

namespace Pattern

variable {text : Array Char} {next : Nat → Bool}

theorem fits_noneOf_nil (i : Nat) :
    fits text (.noneOf []) i next = (decide (i < text.size) && next (i + 1)) := by
  by_cases h : i < text.size <;> simp [fits, h]

theorem many_anything : ∀ {more i : Nat}, i ≤ text.size → text.size ≤ i + more →
    (many (fun j k => fits text (.noneOf []) j k) more i next = true ↔
      ∃ j, i ≤ j ∧ j ≤ text.size ∧ next j = true) := by
  intro more
  induction more with
  | zero =>
      intro i hi hsize
      rw [many]
      refine ⟨fun h => ⟨i, Nat.le_refl i, hi, h⟩, ?_⟩
      rintro ⟨j, hij, hj, h⟩
      obtain rfl : j = i := by omega
      exact h
  | succ more ih =>
      intro i hi hsize
      rw [many, Bool.or_eq_true, fits_noneOf_nil, Bool.and_eq_true, decide_eq_true_iff,
        Bool.and_eq_true]
      constructor
      · rintro (h | ⟨hlt, -, h⟩)
        · exact ⟨i, Nat.le_refl i, hi, h⟩
        · obtain ⟨j, hij, hj, h⟩ := (ih hlt (by omega)).1 h
          exact ⟨j, by omega, hj, h⟩
      · rintro ⟨j, hij, hj, h⟩
        rcases Nat.eq_or_lt_of_le hij with rfl | hlt
        · exact Or.inl h
        · refine Or.inr ⟨by omega, by simp, ?_⟩
          exact (ih (by omega) (by omega)).2 ⟨j, hlt, hj, h⟩

/-- Any characters fit a star. -/
theorem fits_anything {i : Nat} (hi : i ≤ text.size) :
    fits text (.star (.noneOf [])) i next = true ↔
      ∃ j, i ≤ j ∧ j ≤ text.size ∧ next j = true := by
  rw [fits]
  exact many_anything hi (by omega)

end Pattern

namespace Glob

/-- Whether a character does not stand for itself in a name pattern. -/
def isSpecial (c : Char) : Bool :=
  ['*', '?', '['].contains c

theorem patternFrom_cons {c : Char} (h : isSpecial c = false) (fuel : Nat) (cs : List Char) :
    patternFrom (fuel + 1) (c :: cs) = .seq (.char c) (patternFrom fuel cs) := by
  rw [patternFrom]
  all_goals
    rintro rfl
    cases h

/-- Only themselves fit characters that stand for themselves. -/
theorem fits_patternFrom {text : Array Char} {next : Nat → Bool} : ∀ {cs : List Char}
    {fuel i : Nat}, (∀ c ∈ cs, isSpecial c = false) → cs.length ≤ fuel →
    (Pattern.fits text (patternFrom fuel cs) i next = true ↔
      cs <+: text.toList.drop i ∧ next (i + cs.length) = true) := by
  intro cs
  induction cs with
  | nil =>
      intro fuel i _ _
      have hempty : patternFrom fuel [] = .empty := by cases fuel <;> rfl
      simp [hempty, Pattern.fits]
  | cons c cs ih =>
      intro fuel i hcs hfuel
      obtain ⟨hc, hcs⟩ := List.forall_mem_cons.1 hcs
      obtain ⟨fuel, rfl⟩ : ∃ k, fuel = k + 1 := ⟨fuel - 1, by simp at hfuel; omega⟩
      have hfirst : c :: cs <+: text.toList.drop i ↔
          text[i]? = some c ∧ cs <+: text.toList.drop (i + 1) := by
        by_cases hi : i < text.size
        · rw [List.drop_eq_getElem_cons (by simpa using hi), List.cons_prefix_cons]
          simp [hi, eq_comm]
        · simp [hi, List.drop_eq_nil_of_le (by simpa using hi : text.toList.length ≤ i)]
      have hstep : Pattern.fits text (.seq (.char c) (patternFrom fuel cs)) i next = true ↔
          text[i]? = some c ∧ Pattern.fits text (patternFrom fuel cs) (i + 1) next = true := by
        cases htext : text[i]? <;> simp [Pattern.fits, Pattern.char, CharClass.contains, htext]
      rw [patternFrom_cons hc, hstep, ih hcs (by simpa using hfuel), hfirst, List.length_cons,
        Nat.add_right_comm, and_assoc]
      rfl

/-- A name fits a star before an ending if it ends so. -/
theorem accepts_star {ending : List Char} (h : ∀ c ∈ ending, isSpecial c = false) (name : String) :
    accepts ('*' :: ending) name = true ↔ ending <:+ name.toList := by
  have hpattern : patternFrom ('*' :: ending).length ('*' :: ending)
      = .seq (.star (.noneOf [])) (patternFrom ending.length ending) := rfl
  rw [accepts, hpattern, Pattern.fits, Pattern.fits_anything (Nat.zero_le _)]
  simp only [fits_patternFrom h (Nat.le_refl _), List.size_toArray, beq_iff_eq]
  constructor
  · rintro ⟨j, -, hj, hprefix, hlength⟩
    have heq : ending = name.toList.drop j :=
      hprefix.eq_of_length (by simp; omega)
    exact heq ▸ List.drop_suffix j _
  · intro hsuffix
    have hle := hsuffix.length_le
    refine ⟨name.toList.length - ending.length, Nat.zero_le _, by omega, ⟨[], ?_⟩, by omega⟩
    rw [List.append_nil, ← List.suffix_iff_eq_drop.1 hsuffix]

end Glob

/-! ## Stems -/

namespace Location

/-- A name that has something before its last point has it for its stem, unless nothing follows. -/
theorem splitName_append {front last : List Char} (hfront : front ≠ []) (hlast : '.' ∉ last) :
    (splitName (.ofList (front ++ '.' :: last))).1
      = .ofList (if last = [] then front ++ ['.'] else front) := by
  have hall : ∀ c ∈ last.reverse, decide (c ≠ '.') = true := fun c hc =>
    decide_eq_true fun h => hlast (h ▸ List.mem_reverse.1 hc)
  have hreverse : (front ++ '.' :: last).reverse = last.reverse ++ '.' :: front.reverse := by simp
  obtain ⟨c, cs, hcs⟩ := List.exists_cons_of_ne_nil (mt List.reverse_eq_nil_iff.1 hfront)
  rw [splitName, String.toList_ofList, hreverse, List.takeWhile_append_of_pos hall,
    List.dropWhile_append_of_pos hall, List.takeWhile_cons_of_neg (by simp),
    List.dropWhile_cons_of_neg (by simp), List.append_nil, hcs]
  by_cases hnil : last = []
  · simp [hnil]
  · have hstem : (c :: cs).reverse = front := by rw [← hcs, List.reverse_reverse]
    rw [← hstem]
    simp [hnil]

/-- The stem of a name loses the same characters whatever comes before the ending of the name. -/
theorem exists_kept {ending : List Char} (h : ending.head? = some '.') :
    ∃ kept, ∀ front ≠ [], (splitName (.ofList (front ++ ending))).1 = .ofList (front ++ kept) := by
  have hmem : '.' ∈ ending.reverse := List.mem_reverse.2 (List.mem_of_head? h)
  obtain ⟨back, mid, heq, hback⟩ := List.eq_append_cons_of_mem hmem
  have hending : ending = mid.reverse ++ '.' :: back.reverse := by
    rw [← List.reverse_reverse ending, heq]
    simp
  refine ⟨mid.reverse ++ if back.reverse = [] then ['.'] else [], fun front hfront => ?_⟩
  rw [hending, ← List.append_assoc, splitName_append (by simp [hfront]) (by simpa using hback)]
  split <;> simp

/-- Names with the same ending that do not start with it have different stems. -/
theorem splitName_injective {ending : List Char} (h : ending.head? = some '.') {m n : String}
    (hm : ending <:+ m.toList) (hmhead : m.toList.head? ≠ some '.')
    (hn : ending <:+ n.toList) (hnhead : n.toList.head? ≠ some '.')
    (heq : (splitName m).1 = (splitName n).1) : m = n := by
  obtain ⟨kept, hkept⟩ := exists_kept h
  have hstem {s : String} (hs : ending <:+ s.toList) (hhead : s.toList.head? ≠ some '.') :
      ∃ front, s = .ofList (front ++ ending) ∧ (splitName s).1 = .ofList (front ++ kept) := by
    obtain ⟨front, hfront⟩ := hs
    obtain rfl : .ofList (front ++ ending) = s := by rw [hfront, String.ofList_toList]
    refine ⟨front, rfl, hkept front ?_⟩
    rintro rfl
    exact hhead (by simpa using h)
  obtain ⟨front, rfl, hfront⟩ := hstem hm hmhead
  obtain ⟨front', rfl, hfront'⟩ := hstem hn hnhead
  rw [hfront, hfront', String.ofList_inj] at heq
  rw [List.append_cancel_right heq]

end Location

end Stencil
