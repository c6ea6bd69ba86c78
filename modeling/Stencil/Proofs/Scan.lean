import Stencil.Template.Segment

set_option autoImplicit false

/-! # The leftmost tags

`Segment.Leftmost` says what the tags of a text are: reading on from the end of the last tag, the
next one starts at the first place where a complete tag starts at all. `leftmost_scan` says that
`Segment.scan` finds these. -/

namespace Stencil.Segment

/-- A complete tag stands at the start of the text. -/
def StartsTag (cs : List Char) : Prop :=
  ∃ body rest, body ≠ [] ∧ '}' ∉ body ∧ cs = (tag body).source ++ rest

/-- The text is split into its leftmost tags, none of which overlap, and the text between them. -/
inductive Leftmost : List Char → List Segment → Prop
  | nil : Leftmost [] []
  | tag {body rest : List Char} {ss : List Segment} :
      body ≠ [] → '}' ∉ body → Leftmost rest ss →
        Leftmost ((Segment.tag body).source ++ rest) (.tag body :: ss)
  | text {gap rest : List Char} {ss : List Segment} :
      gap ≠ [] → (∀ a b, gap = a ++ b → b ≠ [] → ¬ StartsTag (b ++ rest)) →
        (rest = [] ∨ StartsTag rest) → Leftmost rest ss → Leftmost (gap ++ rest) (.text gap :: ss)

theorem tagBody?_append {body : List Char} (hne : body ≠ []) (hbody : '}' ∉ body)
    (rest : List Char) : tagBody? (body ++ '}' :: '}' :: rest) = some (body, rest) := by
  have hall : ∀ c ∈ body, decide (c ≠ '}') = true := by
    intro c hc
    exact decide_eq_true fun h => hbody (h ▸ hc)
  have htake : (body ++ '}' :: '}' :: rest).takeWhile (· ≠ '}') = body := by
    rw [List.takeWhile_append_of_pos hall]
    simp
  have hdrop : (body ++ '}' :: '}' :: rest).dropWhile (· ≠ '}') = '}' :: '}' :: rest := by
    rw [List.dropWhile_append_of_pos hall]
    simp
  obtain ⟨c, cs, rfl⟩ := List.exists_cons_of_ne_nil hne
  rw [tagBody?, htake, hdrop]
  rfl

/-- A tag starts at two opening braces only if a body and two closing braces follow. -/
theorem not_startsTag_of_tagBody? {cs : List Char} (h : tagBody? cs = none) :
    ¬ StartsTag ('{' :: '{' :: cs) := by
  rintro ⟨body, rest, hne, hbody, hcs⟩
  have hcs : cs = body ++ '}' :: '}' :: rest := by simpa [source] using hcs
  rw [hcs, tagBody?_append hne hbody] at h
  cases h

/-- A character at which no tag starts joins the text that comes next. -/
theorem leftmost_consText {c : Char} {rest : List Char} {ss : List Segment}
    (hss : Leftmost rest ss) (hc : ¬ StartsTag (c :: rest)) :
    Leftmost (c :: rest) (consText c ss) := by
  have hsingle : ∀ a b, [c] = a ++ b → b ≠ [] → ¬ StartsTag (b ++ rest) := by
    intro a b hab hb
    rcases List.append_eq_singleton_iff.1 hab.symm with ⟨-, rfl⟩ | ⟨-, rfl⟩
    · exact hc
    · exact absurd rfl hb
  cases hss with
  | nil => exact @Leftmost.text [c] [] [] (by simp) hsingle (Or.inl rfl) .nil
  | @tag body rest ss hne hbody hss =>
      have hstarts : StartsTag ((Segment.tag body).source ++ rest) := ⟨_, _, hne, hbody, rfl⟩
      exact @Leftmost.text [c] _ _ (by simp) hsingle (Or.inr hstarts) (.tag hne hbody hss)
  | @text gap rest ss hne hgap hrest hss =>
      -- A tag in the longer gap starts at its first character or in the gap that was there before.
      refine @Leftmost.text (c :: gap) _ _ (by simp) (fun a b hab hb => ?_) hrest hss
      cases a with
      | nil =>
          rw [List.nil_append] at hab
          rw [← hab]
          exact hc
      | cons d a =>
          obtain ⟨-, hab⟩ := List.cons.inj hab
          exact hgap a b hab hb

theorem leftmost_scan (cs : List Char) : Leftmost cs (scan cs) := by
  fun_induction scan cs with
  | case1 => exact .nil
  | case2 cs body rest h _ ih =>
      obtain ⟨rfl, hne, hbody⟩ := tagBody?_eq_some h
      have htag := Leftmost.tag hne (fun hmem => hbody _ hmem rfl) ih
      simpa [source] using htag
  | case3 cs h ih => exact leftmost_consText ih (not_startsTag_of_tagBody? h)
  | case4 c cs hc ih =>
      refine leftmost_consText ih ?_
      rintro ⟨body, rest, -, -, h⟩
      simp only [source, List.cons_append, List.cons.injEq] at h
      exact hc _ h.1 h.2

/-! ## No other tags -/

theorem eq_nil_of_leftmost_nil {ss : List Segment} (h : Leftmost [] ss) : ss = [] := by
  generalize hcs : ([] : List Char) = cs at h
  cases h with
  | nil => rfl
  | tag hne hbody hss => simp [source] at hcs
  | text hne hfirst hrest hss => exact absurd (List.append_eq_nil_iff.1 hcs.symm).1 hne

/-- What starts with a tag is split there. -/
theorem Leftmost.exists_tag {cs : List Char} {ss : List Segment} (h : Leftmost cs ss)
    (hcs : StartsTag cs) : ∃ body rest, ss = .tag body :: rest := by
  cases h with
  | nil =>
      obtain ⟨body, rest, -, -, h⟩ := hcs
      simp [source] at h
  | @tag body rest ss hne hbody hss => exact ⟨body, ss, rfl⟩
  | text hne hgap hrest hss => exact absurd hcs (hgap [] _ rfl hne)

theorem scan_tag_append {body : List Char} (hne : body ≠ []) (hbody : '}' ∉ body)
    (rest : List Char) : scan ((Segment.tag body).source ++ rest) = .tag body :: scan rest := by
  have hsource : (Segment.tag body).source ++ rest = '{' :: '{' :: (body ++ '}' :: '}' :: rest) := by
    simp [source]
  rw [hsource, scan]
  split
  · rename_i body' rest' h
    rw [tagBody?_append hne hbody] at h
    cases h
    rfl
  · rename_i h
    rw [tagBody?_append hne hbody] at h
    cases h

/-- Where no tag starts, the scan goes on with the next character. -/
theorem scan_cons {c : Char} {cs : List Char} (h : ¬ StartsTag (c :: cs)) :
    scan (c :: cs) = consText c (scan cs) := by
  rw [scan.eq_def]
  split
  · rename_i heq
    cases heq
  · rename_i ds heq
    cases heq
    split
    · rename_i body rest hbody
      obtain ⟨rfl, hne, hclosed⟩ := tagBody?_eq_some hbody
      refine absurd ⟨body, rest, hne, fun hmem => hclosed _ hmem rfl, ?_⟩ h
      simp [source]
    · rfl
  · rename_i heq
    cases heq
    rfl

/-- A text up to a tag or the end is one segment. -/
theorem scan_gap {gap rest : List Char} (hne : gap ≠ [])
    (hgap : ∀ a b, gap = a ++ b → b ≠ [] → ¬ StartsTag (b ++ rest)) {ss : List Segment}
    (hrest : scan rest = ss) (hss : ∀ cs ss', ss ≠ .text cs :: ss') :
    scan (gap ++ rest) = .text gap :: ss := by
  induction gap with
  | nil => exact absurd rfl hne
  | cons c gap ih =>
      have hc : ¬ StartsTag (c :: (gap ++ rest)) := hgap [] (c :: gap) rfl (by simp)
      rw [List.cons_append, scan_cons hc]
      by_cases hnil : gap = []
      · subst hnil
        rw [List.nil_append, hrest, consText]
        exact hss
      · rw [ih hnil fun a b hab hb => hgap (c :: a) b (by rw [hab, List.cons_append]) hb]
        rfl

/-- A text is split in one way only. -/
theorem scan_eq_of_leftmost {cs : List Char} {ss : List Segment} (h : Leftmost cs ss) :
    scan cs = ss := by
  induction h with
  | nil => rw [scan]
  | tag hne hbody _ ih => rw [scan_tag_append hne hbody, ih]
  | @text gap rest ss hne hgap hrest hss ih =>
      refine scan_gap hne hgap ih fun cs ss' hcons => ?_
      rcases hrest with rfl | hrest
      · rw [eq_nil_of_leftmost_nil hss] at hcons
        cases hcons
      · obtain ⟨body, rest', htag⟩ := hss.exists_tag hrest
        rw [htag] at hcons
        cases hcons

end Stencil.Segment
