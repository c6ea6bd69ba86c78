import Stencil.Proofs.Quotation

set_option autoImplicit false

/-! # Splitting a text into tokens

The tokens of a text stand in it one after another, with nothing but blanks before, between and after
them, and each takes what it can: a quoted text up to its closing quote, where there is one, and
otherwise all characters up to the next blank. Every text can be laid out so, and the tokens are then
those that `tokens` finds (`tokens_layout`).

Which of the two a token is depends on the whole text behind it, since a quote may be closed anywhere
there. Quotes inside a token that does not start with one open nothing. -/

namespace Stencil.Expression

open Text

/-! ## The token that a text starts with -/

/-- A quote, a text without it, and the quote again. -/
def IsQuotation (token : List Char) : Prop :=
  ∃ q text, isQuote q = true ∧ q ∉ text ∧ token = q :: text ++ [q]

/-- A text that starts with a quote which comes again behind it. -/
def StartsQuotation (cs : List Char) : Prop :=
  ∃ q rest, isQuote q = true ∧ q ∈ rest ∧ cs = q :: rest

/-- No blanks. -/
def IsRun (cs : List Char) : Prop :=
  ∀ c ∈ cs, isBlank c = false

/-- The run at the start of a text that goes on at least as far as any other. -/
structure IsLongestRun (run cs : List Char) : Prop where
  isRun : IsRun run
  starts : run <+: cs
  longest : ∀ other, IsRun other → other <+: cs → other <+: run

/-- The token at the start of a text: a whole quotation if the text starts with one, and otherwise
    the longest run. -/
structure IsFirstToken (token cs : List Char) : Prop where
  starts : token <+: cs
  quotation : StartsQuotation cs → IsQuotation token
  run : ¬ StartsQuotation cs → IsLongestRun token cs

theorem startsQuotation_iff {cs : List Char} :
    StartsQuotation cs ↔ ∃ token rest, IsQuotation token ∧ cs = token ++ rest := by
  constructor
  · rintro ⟨q, rest, hq, hmem, rfl⟩
    obtain ⟨text, after, rfl, htext⟩ := List.eq_append_cons_of_mem hmem
    exact ⟨q :: text ++ [q], after, ⟨q, text, hq, htext, rfl⟩, by simp⟩
  · rintro ⟨token, rest, ⟨q, text, hq, -, rfl⟩, rfl⟩
    exact ⟨q, text ++ q :: rest, hq, by simp, by simp⟩

theorem IsQuotation.quotedStart?_append {token : List Char} (h : IsQuotation token)
    (rest : List Char) : quotedStart? (token ++ rest) = some (token, rest) := by
  obtain ⟨q, text, hq, htext, rfl⟩ := h
  rw [List.append_assoc]
  exact quotedStart?_quoted hq htext rest

theorem quotedStart?_eq_none_iff {cs : List Char} :
    quotedStart? cs = none ↔ ¬ StartsQuotation cs := by
  constructor
  · intro hnone hstarts
    obtain ⟨token, rest, htoken, rfl⟩ := startsQuotation_iff.1 hstarts
    rw [htoken.quotedStart?_append] at hnone
    cases hnone
  · intro h
    cases cs with
    | nil => rfl
    | cons q cs =>
        by_cases hq : isQuote q = true
        · have hdrop : cs.dropWhile (· ≠ q) = [] := by
            rw [List.dropWhile_eq_nil_iff]
            intro c hc
            exact decide_eq_true fun heq => h ⟨q, cs, hq, heq ▸ hc, rfl⟩
          rw [quotedStart?, if_pos hq, hdrop]
        · exact quotedStart?_eq_none (eq_false_of_ne_true hq) cs

theorem quotedStart?_eq_some_iff {cs token rest : List Char} :
    quotedStart? cs = some (token, rest) ↔ IsQuotation token ∧ cs = token ++ rest := by
  constructor
  · intro h
    by_cases hstarts : StartsQuotation cs
    · obtain ⟨token', rest', htoken, rfl⟩ := startsQuotation_iff.1 hstarts
      rw [htoken.quotedStart?_append] at h
      cases h
      exact ⟨htoken, rfl⟩
    · rw [quotedStart?_eq_none_iff.2 hstarts] at h
      cases h
  · rintro ⟨htoken, rfl⟩
    exact htoken.quotedStart?_append rest

/-- A run is the longest one if it ends before a blank or with the text. -/
theorem isLongestRun_append_iff {run rest : List Char} :
    IsLongestRun run (run ++ rest) ↔ IsRun run ∧ ∀ c ∈ rest.head?, isBlank c = true := by
  constructor
  · intro h
    refine ⟨h.isRun, fun c hc => ?_⟩
    by_contra hblank
    obtain ⟨after, rfl⟩ := List.head?_eq_some_iff.1 hc
    have hrun : IsRun (run ++ [c]) :=
      List.forall_mem_append.2 ⟨h.isRun, by simpa using hblank⟩
    have hstarts : run ++ [c] <+: run ++ c :: after := ⟨after, by simp⟩
    have hlength := (h.longest _ hrun hstarts).length_le
    rw [List.length_append, List.length_singleton] at hlength
    omega
  · rintro ⟨hrun, hstop⟩
    refine ⟨hrun, List.prefix_append run rest, fun other hother hstarts => ?_⟩
    rcases List.prefix_or_prefix_of_prefix hstarts (List.prefix_append run rest) with
      hshort | ⟨more, rfl⟩
    · exact hshort
    · -- What a longer run has more would start with the blank.
      obtain ⟨after, rfl⟩ := (List.prefix_append_right_inj run).1 hstarts
      cases more with
      | nil => simp
      | cons c more =>
          have hc := hother c (by simp)
          rw [hstop c rfl] at hc
          cases hc

/-- The first token is what is taken: a quoted text, or what comes before a blank. -/
theorem isFirstToken_append_iff {token rest : List Char} :
    IsFirstToken token (token ++ rest) ↔
      quotedStart? (token ++ rest) = some (token, rest) ∨
      quotedStart? (token ++ rest) = none ∧ IsRun token ∧ ∀ c ∈ rest.head?, isBlank c = true := by
  constructor
  · intro h
    by_cases hstarts : StartsQuotation (token ++ rest)
    · exact Or.inl ((h.quotation hstarts).quotedStart?_append rest)
    · exact Or.inr ⟨quotedStart?_eq_none_iff.2 hstarts, isLongestRun_append_iff.1 (h.run hstarts)⟩
  · rintro (hstart | ⟨hstart, hrun⟩)
    · obtain ⟨hquotation, -⟩ := quotedStart?_eq_some_iff.1 hstart
      have hstarts := startsQuotation_iff.2 ⟨token, rest, hquotation, rfl⟩
      exact ⟨List.prefix_append token rest, fun _ => hquotation, fun hnot => absurd hstarts hnot⟩
    · have hnot := quotedStart?_eq_none_iff.1 hstart
      exact ⟨List.prefix_append token rest, fun hstarts => absurd hstarts hnot,
        fun _ => isLongestRun_append_iff.2 hrun⟩

theorem isFirstToken_takeWhile {c : Char} {cs : List Char} (hc : isBlank c = false)
    (h : quotedStart? (c :: cs) = none) :
    IsFirstToken (c :: cs.takeWhile (!isBlank ·)) (c :: cs) := by
  have hcs : (c :: cs.takeWhile (!isBlank ·)) ++ cs.dropWhile (!isBlank ·) = c :: cs := by
    rw [List.cons_append, List.takeWhile_append_dropWhile]
  have hrun : IsRun (c :: cs.takeWhile (!isBlank ·)) := by
    refine List.forall_mem_cons.2 ⟨hc, fun d hd => ?_⟩
    simpa using List.mem_takeWhile_imp hd
  have hstop : ∀ d ∈ (cs.dropWhile (!isBlank ·)).head?, isBlank d = true := by
    intro d hd
    have hnot := List.head?_dropWhile_not (!isBlank ·) cs
    rw [Option.mem_def.1 hd] at hnot
    simpa using hnot
  have hfirst := isFirstToken_append_iff.2 (Or.inr ⟨hcs.symm ▸ h, hrun, hstop⟩)
  rwa [hcs] at hfirst

theorem tokens_append_of_isFirstToken {token rest : List Char} (hne : token ≠ [])
    (h : IsFirstToken token (token ++ rest)) : tokens (token ++ rest) = token :: tokens rest := by
  obtain ⟨c, cs, rfl⟩ := List.exists_cons_of_ne_nil hne
  rcases isFirstToken_append_iff.1 h with hstart | ⟨hstart, hrun, hstop⟩
  · obtain ⟨⟨q, text, hq, -, hquoted⟩, -⟩ := quotedStart?_eq_some_iff.1 hstart
    obtain ⟨rfl, -⟩ := List.cons.inj hquoted
    exact tokens_of_quotedStart? (isBlank_of_isQuote hq) hstart
  · exact tokens_append_of_run hrun hstart hstop

/-! ## Tokens at their places -/

/-- A token in a text, with the blanks after it. -/
structure Placed where
  token : List Char
  gap : List Char
  token_ne_nil : token ≠ []
  blank_gap : Blank gap

namespace Placed

/-- The token and the blanks after it. -/
def source (p : Placed) : List Char :=
  p.token ++ p.gap

/-- Each token is the first one of the text from its place on. -/
def Greedy (ps : List Placed) : Prop :=
  ∀ front p back, ps = front ++ p :: back → IsFirstToken p.token ((p :: back).flatMap source)

theorem greedy_nil : Greedy [] := by
  intro front p back h
  simp at h

theorem greedy_cons {p : Placed} {ps : List Placed} :
    Greedy (p :: ps) ↔ IsFirstToken p.token ((p :: ps).flatMap source) ∧ Greedy ps := by
  constructor
  · exact fun h => ⟨h [] p ps rfl, fun front q back hps => h (p :: front) q back (by rw [hps]; rfl)⟩
  · rintro ⟨hp, hps⟩ front q back h
    rcases List.cons_eq_append_iff.1 h with ⟨rfl, hq⟩ | ⟨front, rfl, hrest⟩
    · cases hq
      exact hp
    · exact hps front q back hrest

/-- The tokens that are placed greedily are those of the text, whatever blanks are before them. -/
theorem tokens_of_greedy {gap : List Char} (hgap : Blank gap) {ps : List Placed} (h : Greedy ps) :
    tokens (gap ++ ps.flatMap source) = ps.map token := by
  induction ps generalizing gap with
  | nil => rw [tokens_blank_append hgap, List.flatMap_nil, tokens, List.map_nil]
  | cons p ps ih =>
      obtain ⟨hp, hps⟩ := greedy_cons.1 h
      rw [List.flatMap_cons, source, List.append_assoc] at hp ⊢
      rw [tokens_blank_append hgap, tokens_append_of_isFirstToken p.token_ne_nil hp,
        ih p.blank_gap hps, List.map_cons]

/-- But for blanks, a text is made of its tokens. -/
theorem filter_source (ps : List Placed) :
    (ps.flatMap source).filter (!isBlank ·) = (ps.map token).flatten.filter (!isBlank ·) := by
  induction ps with
  | nil => rfl
  | cons p ps ih =>
      rw [List.flatMap_cons, source, List.filter_append, List.filter_append,
        p.blank_gap.filter_eq_nil, ih, List.map_cons, List.flatten_cons, List.filter_append,
        List.append_nil]

end Placed

/-! ## Layouts -/

/-- A text as blanks and then tokens, each with the blanks after it. -/
structure Layout where
  gap : List Char
  placed : List Placed
  blank_gap : Blank gap

namespace Layout

/-- The text that is laid out. -/
def source (l : Layout) : List Char :=
  l.gap ++ l.placed.flatMap Placed.source

/-- The layout with one more blank at its start. -/
def indent (l : Layout) {c : Char} (h : isBlank c = true) : Layout where
  gap := c :: l.gap
  placed := l.placed
  blank_gap := List.forall_mem_cons.2 ⟨h, l.blank_gap⟩

/-- The layout with one more token at its start. -/
def place (l : Layout) {token : List Char} (h : token ≠ []) : Layout where
  gap := []
  placed := ⟨token, l.gap, h, l.blank_gap⟩ :: l.placed
  blank_gap := blank_nil

theorem source_place (l : Layout) {token : List Char} (h : token ≠ []) :
    (l.place h).source = token ++ l.source := by
  simp [source, place, Placed.source]

theorem exists_of_append {token rest : List Char} (hne : token ≠ [])
    (hfirst : IsFirstToken token (token ++ rest))
    (h : ∃ l : Layout, l.source = rest ∧ Placed.Greedy l.placed) :
    ∃ l : Layout, l.source = token ++ rest ∧ Placed.Greedy l.placed := by
  obtain ⟨l, rfl, hl⟩ := h
  refine ⟨l.place hne, l.source_place hne, Placed.greedy_cons.2 ⟨?_, hl⟩⟩
  rwa [List.flatMap_cons, Placed.source, List.append_assoc]

/-- Every text can be laid out greedily. -/
theorem exists_greedy (text : List Char) :
    ∃ l : Layout, l.source = text ∧ Placed.Greedy l.placed := by
  fun_induction tokens text with
  | case1 => exact ⟨⟨[], [], blank_nil⟩, rfl, Placed.greedy_nil⟩
  | case2 c cs hc ih =>
      obtain ⟨l, rfl, hl⟩ := ih
      exact ⟨l.indent hc, rfl, hl⟩
  | case3 c cs hc token rest hstart _ ih =>
      obtain ⟨⟨q, text, -, -, rfl⟩, hcs⟩ := quotedStart?_eq_some_iff.1 hstart
      rw [hcs] at hstart ⊢
      exact exists_of_append (by simp) (isFirstToken_append_iff.2 (Or.inl hstart)) ih
  | case4 c cs hc hstart _ ih =>
      have hfirst := isFirstToken_takeWhile (by simpa using hc) hstart
      have hcs : (c :: cs.takeWhile (!isBlank ·)) ++ cs.dropWhile (!isBlank ·) = c :: cs := by
        rw [List.cons_append, List.takeWhile_append_dropWhile]
      rw [← hcs] at hfirst ⊢
      exact exists_of_append (by simp) hfirst ih

end Layout

/-- **Splitting loses nothing and takes what it can.** A text can be laid out in blanks and tokens,
    each of which is a whole quoted text where one starts and the longest run without blanks
    elsewhere, and the tokens of such a layout are just those that the text is split into. So these
    have all characters of the text that are not blank, in their order. -/
theorem tokens_layout (text : List Char) :
    (∀ ts, tokens text = ts ↔
      ∃ l : Layout, l.source = text ∧ Placed.Greedy l.placed ∧ l.placed.map Placed.token = ts) ∧
    (tokens text).flatten.filter (!isBlank ·) = text.filter (!isBlank ·) := by
  have hunique : ∀ l : Layout, l.source = text → Placed.Greedy l.placed →
      tokens text = l.placed.map Placed.token := by
    rintro l rfl hl
    exact Placed.tokens_of_greedy l.blank_gap hl
  obtain ⟨l, hsource, hl⟩ := Layout.exists_greedy text
  have htokens := hunique l hsource hl
  refine ⟨fun ts => ⟨?_, ?_⟩, ?_⟩
  · rintro rfl
    exact ⟨l, hsource, hl, htokens.symm⟩
  · rintro ⟨l', hsource', hl', rfl⟩
    exact hunique l' hsource' hl'
  · rw [htokens, ← Placed.filter_source, ← hsource, Layout.source, List.filter_append,
      l.blank_gap.filter_eq_nil, List.nil_append]

/-- Quotes count only where a token starts, and only if they are closed. -/
example : tokens "say \"a b\"c d'e f' '\"g\" ' \"h i".toList
    = ["say", "\"a b\"", "c", "d'e", "f'", "'\"g\" '", "\"h", "i"].map String.toList := by
  decide +kernel

end Stencil.Expression
