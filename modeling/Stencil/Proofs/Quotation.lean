import Mathlib.Data.List.Nodup
import Stencil.Proofs.Lookup
import Stencil.Proofs.Spelling

set_option autoImplicit false

/-! # Quoted arguments

A text without closing braces, in quotes of a kind that is not in it, is read as it is, in both kinds
of list that it can stand in: `tokens_sources` is about texts by themselves, `keywords_trim_sources`
about texts under keys. Blanks and equals signs in a quoted text separate nothing. -/

namespace Stencil

namespace Text

/-- A word. -/
structure Word where
  chars : List Char
  ne_nil : chars ≠ []
  isWord : ∀ c ∈ chars, Text.isWord c = true

theorem Word.isBlank (w : Word) {c : Char} (h : c ∈ w.chars) : isBlank c = false := by
  by_contra hblank
  have hword := w.isWord c h
  rw [isWord_of_isBlank (eq_true_of_ne_false hblank)] at hword
  cases hword

theorem Word.not_mem_of_not_isWord (w : Word) {c : Char} (h : Text.isWord c = false) :
    c ∉ w.chars := by
  intro hc
  have hword := w.isWord c hc
  rw [h] at hword
  cases hword

end Text

/-- A text in quotes, with the blanks before it. -/
structure Quotation where
  gap : List Char
  quote : Char
  text : List Char
  blank_gap : Text.Blank gap
  gap_ne_nil : gap ≠ []
  isQuote_quote : Expression.isQuote quote = true
  quote_not_mem : quote ∉ text
  brace_not_mem : '}' ∉ text

/-- A text in quotes under a key, with the blanks before them. -/
structure KeyedQuotation extends Quotation where
  key : Text.Word

namespace Text

/-! ## The ends of a list of texts -/

/-- A list of texts that start with a blank starts with one. -/
theorem isBlank_of_mem_head?_flatMap {α : Type} {f : α → List Char}
    (h : ∀ x, ∃ c rest, f x = c :: rest ∧ isBlank c = true) (xs : List α) :
    ∀ c ∈ (xs.flatMap f).head?, isBlank c = true := by
  cases xs with
  | nil => exact nofun
  | cons x xs =>
      obtain ⟨c, rest, hx, hc⟩ := h x
      rw [List.flatMap_cons, hx]
      rintro d ⟨⟩
      exact hc

/-- A list of texts that do not end with a blank does not end with one. -/
theorem not_isBlank_of_mem_getLast?_flatMap {α : Type} {f : α → List Char}
    (h : ∀ x, ∃ front c, f x = front ++ [c] ∧ isBlank c = false) (xs : List α) :
    ∀ c ∈ (xs.flatMap f).getLast?, isBlank c = false := by
  induction xs using List.reverseRecOn with
  | nil => exact nofun
  | append_singleton xs x =>
      obtain ⟨front, c, hx, hc⟩ := h x
      rw [List.flatMap_append, List.flatMap_singleton, hx, ← List.append_assoc, List.getLast?_concat]
      rintro d ⟨⟩
      exact hc

/-- Trimming takes blanks off one end only, if there are none at the other. -/
theorem exists_eq_append_trim {cs : List Char} (h : ∀ c ∈ cs.getLast?, isBlank c = false) :
    ∃ as, Blank as ∧ cs = as ++ trim cs := by
  obtain ⟨as, has, hcs⟩ := exists_eq_append_trimLeft cs
  refine ⟨as, has, ?_⟩
  rw [trim, trimRight_eq_self_iff.2]
  · exact hcs
  · intro c hc
    refine h c ?_
    rw [hcs]
    exact List.mem_getLast?_append_of_mem_getLast? hc

end Text

namespace Expression

open Text

/-! ## Quoted texts among other characters -/

theorem quote_cases {q : Char} (h : isQuote q = true) : q = '"' ∨ q = '\'' := by
  simpa [isQuote] using h

theorem isQuote_of_isWord {c : Char} (h : isWord c = true) : isQuote c = false := by
  by_contra hquote
  rcases quote_cases (eq_true_of_ne_false hquote) with rfl | rfl <;> exact absurd h (by decide)

theorem isBlank_of_isQuote {c : Char} (h : isQuote c = true) : isBlank c = false := by
  rcases quote_cases h with rfl | rfl <;> decide

theorem quotedStart?_quoted {q : Char} {text : List Char} (hq : isQuote q = true) (htext : q ∉ text)
    (rest : List Char) : quotedStart? (q :: (text ++ q :: rest)) = some (q :: text ++ [q], rest) := by
  have hinside : ∀ c ∈ text, decide (c ≠ q) = true := by
    intro c hc
    exact decide_eq_true fun heq => htext (heq ▸ hc)
  have hend : ∀ c ∈ (q :: rest).head?, decide (c ≠ q) = false := by
    rintro c ⟨⟩
    exact decide_eq_false (not_not.2 rfl)
  rw [quotedStart?, if_pos hq, dropWhile_append_eq_right hinside hend,
    takeWhile_append_eq_left hinside hend]

theorem quotedStart?_eq_none {c : Char} (h : isQuote c = false) (cs : List Char) :
    quotedStart? (c :: cs) = none := by
  rw [quotedStart?, if_neg (by simp [h])]

/-! ## Tokens -/

theorem tokens_of_quotedStart? {c : Char} {cs token rest : List Char} (hblank : isBlank c = false)
    (h : quotedStart? (c :: cs) = some (token, rest)) : tokens (c :: cs) = token :: tokens rest := by
  rw [tokens, if_neg (by simp [hblank])]
  split
  · rename_i h'
    rw [h] at h'
    cases h'
    rfl
  · rename_i h'
    rw [h] at h'
    cases h'

theorem tokens_of_not_quoted {c : Char} {cs : List Char} (hblank : isBlank c = false)
    (h : quotedStart? (c :: cs) = none) :
    tokens (c :: cs) = (c :: cs.takeWhile (!isBlank ·)) :: tokens (cs.dropWhile (!isBlank ·)) := by
  rw [tokens, if_neg (by simp [hblank])]
  split
  · rename_i h'
    rw [h] at h'
    cases h'
  · rfl

theorem tokens_blank_append {gap : List Char} (h : Blank gap) (cs : List Char) :
    tokens (gap ++ cs) = tokens cs := by
  induction gap with
  | nil => rfl
  | cons c gap ih =>
      obtain ⟨hc, hgap⟩ := List.forall_mem_cons.1 h
      rw [List.cons_append, tokens, if_pos hc, ih hgap]

/-- A text without blanks that starts no quoted text is a token before a blank. -/
theorem tokens_append_of_run {c : Char} {cs rest : List Char}
    (hblank : ∀ d ∈ c :: cs, isBlank d = false) (hquoted : quotedStart? (c :: cs ++ rest) = none)
    (hend : ∀ d ∈ rest.head?, isBlank d = true) :
    tokens (c :: cs ++ rest) = (c :: cs) :: tokens rest := by
  obtain ⟨hc, hcs⟩ := List.forall_mem_cons.1 hblank
  have hinside : ∀ d ∈ cs, (!isBlank d) = true := by
    intro d hd
    rw [hcs d hd]
    rfl
  have hstop : ∀ d ∈ rest.head?, (!isBlank d) = false := by
    intro d hd
    rw [hend d hd]
    rfl
  rw [List.cons_append] at hquoted ⊢
  rw [tokens_of_not_quoted hc hquoted, takeWhile_append_eq_left hinside hstop,
    dropWhile_append_eq_right hinside hstop]

/-- A text without blanks that starts with no quote is a token before a blank. -/
theorem tokens_append_of_not_quoted {c : Char} {cs rest : List Char}
    (hblank : ∀ d ∈ c :: cs, isBlank d = false) (hquote : isQuote c = false)
    (hend : ∀ d ∈ rest.head?, isBlank d = true) :
    tokens (c :: cs ++ rest) = (c :: cs) :: tokens rest :=
  tokens_append_of_run hblank (quotedStart?_eq_none hquote (cs ++ rest)) hend

/-- A word before a blank is a token. -/
theorem tokens_word_append (w : Word) {rest : List Char} (h : ∀ c ∈ rest.head?, isBlank c = true) :
    tokens (w.chars ++ rest) = w.chars :: tokens rest := by
  obtain ⟨c, cs, hw⟩ := List.exists_cons_of_ne_nil w.ne_nil
  have hblank : ∀ d ∈ w.chars, isBlank d = false := fun d hd => w.isBlank hd
  have hquote : isQuote c = false :=
    isQuote_of_isWord (w.isWord c (hw ▸ List.mem_cons_self))
  rw [hw] at hblank ⊢
  exact tokens_append_of_not_quoted hblank hquote h

/-! ## Pairs of a key and a token -/

theorem keywords_of_not_isWord {c : Char} (h : isWord c = false) (cs : List Char) :
    keywords (c :: cs) = keywords cs := by
  rw [keywords, if_neg (by simp [h])]

theorem keywords_blank_append {gap : List Char} (h : Blank gap) (cs : List Char) :
    keywords (gap ++ cs) = keywords cs := by
  induction gap with
  | nil => rfl
  | cons c gap ih =>
      obtain ⟨hc, hgap⟩ := List.forall_mem_cons.1 h
      rw [List.cons_append, keywords_of_not_isWord (isWord_of_isBlank hc), ih hgap]

theorem keywords_word_append (w : Word) {cs token rest : List Char}
    (h : valueStart? cs = some (token, rest)) :
    keywords (w.chars ++ '=' :: cs) = (w.chars, token) :: keywords rest := by
  obtain ⟨c, ds, hw⟩ := List.exists_cons_of_ne_nil w.ne_nil
  have hword := w.isWord
  rw [hw] at hword ⊢
  obtain ⟨hc, hds⟩ := List.forall_mem_cons.1 hword
  have hend : ∀ d ∈ ('=' :: cs).head?, isWord d = false := by
    rintro d ⟨⟩
    rfl
  rw [List.cons_append, keywords, if_pos hc]
  split
  · rename_i after hafter
    rw [dropWhile_append_eq_right hds hend] at hafter
    cases hafter
    split
    · rename_i hstart
      rw [h] at hstart
      cases hstart
      rw [takeWhile_append_eq_left hds hend]
    · rename_i hstart
      rw [h] at hstart
      cases hstart
  · rename_i hafter
    exact absurd (dropWhile_append_eq_right hds hend) (hafter cs)

end Expression

/-! ## Lists of quoted texts -/

namespace Quotation

open Text Expression

/-- The text in its quotes. -/
def quoted (q : Quotation) : List Char :=
  q.quote :: q.text ++ [q.quote]

/-- The text in its quotes, after the blanks. -/
def source (q : Quotation) : List Char :=
  q.gap ++ q.quoted

/-- The text as a value. -/
def value (q : Quotation) : Value :=
  .str (String.ofList q.text)

theorem read_quoted (q : Quotation) : Argument.read q.quoted = .text q.text := by
  have hunquoted : Argument.unquoted? q.quoted = some q.text := by
    rw [quoted, List.cons_append, Argument.unquoted?, q.isQuote_quote, List.getLast?_concat,
      List.dropLast_concat]
    simp
  rw [Argument.read, hunquoted]

theorem evaluate_quoted [Attributes] (q : Quotation) (scope : Value) :
    Argument.evaluate scope q.quoted = q.value := by
  rw [Argument.evaluate, q.read_quoted]
  rfl

theorem isBlank_quote (q : Quotation) : isBlank q.quote = false :=
  isBlank_of_isQuote q.isQuote_quote

theorem quotedStart?_append (q : Quotation) (rest : List Char) :
    quotedStart? (q.quoted ++ rest) = some (q.quoted, rest) := by
  have h := quotedStart?_quoted q.isQuote_quote q.quote_not_mem rest
  rwa [quoted, List.append_assoc]

theorem tokens_source_append (q : Quotation) (rest : List Char) :
    tokens (q.source ++ rest) = q.quoted :: tokens rest := by
  rw [source, List.append_assoc, tokens_blank_append q.blank_gap]
  exact tokens_of_quotedStart? q.isBlank_quote (q.quotedStart?_append rest)

theorem tokens_sources (qs : List Quotation) : tokens (qs.flatMap source) = qs.map quoted := by
  induction qs with
  | nil => rw [List.flatMap_nil, tokens, List.map_nil]
  | cons q qs ih => rw [List.flatMap_cons, tokens_source_append, ih, List.map_cons]

theorem exists_source_eq_concat (q : Quotation) :
    ∃ front c, q.source = front ++ [c] ∧ isBlank c = false :=
  ⟨q.gap ++ q.quote :: q.text, q.quote, by simp [source, quoted], q.isBlank_quote⟩

theorem exists_gap_eq_cons (q : Quotation) : ∃ c gap, q.gap = c :: gap ∧ isBlank c = true := by
  obtain ⟨c, gap, hgap⟩ := List.exists_cons_of_ne_nil q.gap_ne_nil
  refine ⟨c, gap, hgap, q.blank_gap c ?_⟩
  rw [hgap]
  exact List.mem_cons_self

/-- Quoted texts start with a blank. -/
theorem isBlank_of_mem_head?_sources (qs : List Quotation) :
    ∀ c ∈ (qs.flatMap source).head?, isBlank c = true := by
  refine isBlank_of_mem_head?_flatMap (fun q => ?_) qs
  obtain ⟨c, gap, hgap, hc⟩ := q.exists_gap_eq_cons
  exact ⟨c, gap ++ q.quoted, by rw [source, hgap, List.cons_append], hc⟩

theorem sources_ne_nil {qs : List Quotation} (h : qs ≠ []) : qs.flatMap source ≠ [] := by
  obtain ⟨q, qs, rfl⟩ := List.exists_cons_of_ne_nil h
  simp [source, quoted]

theorem brace_not_mem_quoted (q : Quotation) : '}' ∉ q.quoted := by
  have hquote : '}' ≠ q.quote := by
    rcases quote_cases q.isQuote_quote with h | h <;> rw [h] <;> decide
  simp [quoted, q.brace_not_mem, hquote]

theorem brace_not_mem_gap (q : Quotation) : '}' ∉ q.gap := by
  intro h
  exact absurd (q.blank_gap _ h) (by decide)

theorem brace_not_mem_source (q : Quotation) : '}' ∉ q.source := by
  simp [source, q.brace_not_mem_gap, q.brace_not_mem_quoted]

end Quotation

namespace KeyedQuotation

open Text Expression

/-- The text in its quotes, after the blanks and the key. -/
def source (q : KeyedQuotation) : List Char :=
  q.gap ++ (q.key.chars ++ '=' :: q.quoted)

theorem keywords_source_append (q : KeyedQuotation) (rest : List Char) :
    keywords (q.source ++ rest) = (q.key.chars, q.quoted) :: keywords rest := by
  have hstart : valueStart? (q.quoted ++ rest) = some (q.quoted, rest) := by
    rw [valueStart?, q.quotedStart?_append]
  rw [source, List.append_assoc, List.append_assoc, List.cons_append,
    keywords_blank_append q.blank_gap, keywords_word_append q.key hstart]

theorem keywords_sources (qs : List KeyedQuotation) :
    keywords (qs.flatMap source) = qs.map fun q => (q.key.chars, q.quoted) := by
  induction qs with
  | nil => rw [List.flatMap_nil, keywords, List.map_nil]
  | cons q qs ih => rw [List.flatMap_cons, keywords_source_append, ih, List.map_cons]

theorem exists_source_eq_concat (q : KeyedQuotation) :
    ∃ front c, q.source = front ++ [c] ∧ isBlank c = false :=
  ⟨q.gap ++ (q.key.chars ++ '=' :: q.quote :: q.text), q.quote,
    by simp [source, Quotation.quoted], q.isBlank_quote⟩

/-- Pairs start with a blank. -/
theorem isBlank_of_mem_head?_sources (qs : List KeyedQuotation) :
    ∀ c ∈ (qs.flatMap source).head?, isBlank c = true := by
  refine isBlank_of_mem_head?_flatMap (fun q => ?_) qs
  obtain ⟨c, gap, hgap, hc⟩ := q.exists_gap_eq_cons
  exact ⟨c, gap ++ (q.key.chars ++ '=' :: q.quoted), by rw [source, hgap, List.cons_append], hc⟩

/-- The pairs are read alike when the blanks before them are gone. -/
theorem keywords_trim_sources (qs : List KeyedQuotation) :
    keywords (trim (qs.flatMap source)) = qs.map fun q => (q.key.chars, q.quoted) := by
  obtain ⟨as, has, h⟩ :=
    exists_eq_append_trim (not_isBlank_of_mem_getLast?_flatMap exists_source_eq_concat qs)
  calc keywords (trim (qs.flatMap source))
      = keywords (as ++ trim (qs.flatMap source)) := (keywords_blank_append has _).symm
    _ = keywords (qs.flatMap source) := by rw [← h]
    _ = qs.map fun q => (q.key.chars, q.quoted) := keywords_sources qs

/-- The texts under their keys. -/
def entries (qs : List KeyedQuotation) : Entries :=
  qs.map fun q => (.str (String.ofList q.key.chars), q.value)

theorem brace_not_mem_source (q : KeyedQuotation) : '}' ∉ q.source := by
  have hkey := q.key.not_mem_of_not_isWord (c := '}') rfl
  simp [source, q.brace_not_mem_gap, q.brace_not_mem_quoted, hkey]

end KeyedQuotation

theorem KeyedQuotation.keywordValues_sources [Attributes] {qs : List KeyedQuotation}
    (h : (qs.map fun q => q.key.chars).Nodup) (scope : Value) :
    Argument.keywordValues scope (Text.trim (qs.flatMap source)) = entries qs := by
  have hkeys : (qs.map fun q => String.ofList q.key.chars).Nodup := by
    rw [← Function.comp_def String.ofList, ← List.map_map]
    exact List.Nodup.map (fun _ _ => String.ofList_injective) h
  have hpairs : (qs.map fun q => (q.key.chars, q.quoted)).map
      (fun k => (Value.str (String.ofList k.1), Argument.evaluate scope k.2)) = entries qs := by
    rw [List.map_map]
    exact List.map_congr_left fun q _ => congrArg _ (q.evaluate_quoted scope)
  rw [Argument.keywordValues, keywords_trim_sources, hpairs, entries,
    Entries.update_of_nodup qs hkeys fun _ _ _ h => absurd h List.not_mem_nil, List.nil_append]

/-! ## Tags with quoted texts -/

namespace Tag

open Text

/-- A word before a blank starts no tag but that of a variable. -/
theorem ofTrimmed_word_append (w : Word) {rest : List Char}
    (h : ∀ c ∈ rest.head?, isBlank c = true) :
    ofTrimmed (w.chars ++ rest) = .variable (w.chars ++ rest) := by
  have hend : ∀ c ∈ rest.head?, isWord c = false := fun c hc => isWord_of_isBlank (h c hc)
  have hfirst : ∀ c cs, w.chars ++ rest = c :: cs → isWord c = true := by
    intro c cs hcs
    refine w.isWord c (List.mem_of_mem_head? ?_)
    rw [← List.head?_append_of_ne_nil _ w.ne_nil, hcs]
    rfl
  rcases ofTrimmed_cases (w.chars ++ rest) with ⟨kind, subject, hsubject, -⟩ | ⟨kind, hclosing, -⟩ |
    ⟨name, arguments, hcall, -⟩ | hvariable
  · obtain ⟨c, cs, hbody, -⟩ := subject?_eq_some.1 hsubject
    exact absurd (hfirst _ _ hbody) (by decide)
  · exact absurd (hfirst _ _ hclosing) (by decide)
  · -- The mark of a component goes on with a colon after its word.
    obtain ⟨after, hbody, -⟩ := call?_eq_some.1 hcall
    have hmark : componentMark ++ name ++ after
        = ['c', 'o', 'm', 'p', 'o', 'n', 'e', 'n', 't'] ++ ':' :: (name ++ after) := by
      simp [componentMark]
    have hword : ∀ c ∈ ['c', 'o', 'm', 'p', 'o', 'n', 'e', 'n', 't'], isWord c = true :=
      List.all_eq_true.1 (by decide)
    have hcolon : ∀ c ∈ (':' :: (name ++ after)).head?, isWord c = false := by
      rintro c ⟨⟩
      rfl
    have hrest := dropWhile_append_eq_right w.isWord hend
    rw [hbody, hmark, dropWhile_append_eq_right hword hcolon] at hrest
    have hblank := h ':' (by rw [← hrest]; rfl)
    exact absurd hblank (by decide)
  · exact hvariable

/-- The body of a tag that calls a helper with quoted texts. -/
def helperBody (name : Word) (qs : List Quotation) : List Char :=
  name.chars ++ qs.flatMap Quotation.source

/-- The body of a tag that calls a component with quoted texts. -/
def componentBody (name : Word) (qs : List KeyedQuotation) : List Char :=
  componentMark ++ name.chars ++ qs.flatMap KeyedQuotation.source

theorem trim_helperBody (name : Word) {qs : List Quotation} (h : qs ≠ []) :
    trim (helperBody name qs) = helperBody name qs := by
  refine trim_eq_self_iff.2 ⟨fun c hc => ?_, ?_⟩
  · rw [helperBody, List.head?_append_of_ne_nil _ name.ne_nil] at hc
    exact name.isBlank (List.mem_of_mem_head? hc)
  · rw [helperBody, List.getLast?_append_of_ne_nil _ (Quotation.sources_ne_nil h)]
    exact not_isBlank_of_mem_getLast?_flatMap Quotation.exists_source_eq_concat qs

theorem read_helperBody (name : Word) {qs : List Quotation} (h : qs ≠ []) :
    read (helperBody name qs) = .variable (helperBody name qs) := by
  rw [read, trim_helperBody name h]
  exact ofTrimmed_word_append name (Quotation.isBlank_of_mem_head?_sources qs)

theorem helperBody_ne_nil (name : Word) (qs : List Quotation) : helperBody name qs ≠ [] := by
  simp [helperBody, name.ne_nil]

theorem brace_not_mem_helperBody (name : Word) (qs : List Quotation) :
    '}' ∉ helperBody name qs := by
  have hname := name.not_mem_of_not_isWord (c := '}') rfl
  simp [helperBody, hname, Quotation.brace_not_mem_source]

theorem componentBody_ne_nil (name : Word) (qs : List KeyedQuotation) :
    componentBody name qs ≠ [] := by
  simp [componentBody, name.ne_nil]

theorem brace_not_mem_componentBody (name : Word) (qs : List KeyedQuotation) :
    '}' ∉ componentBody name qs := by
  have hname := name.not_mem_of_not_isWord (c := '}') rfl
  have hmark : '}' ∉ componentMark := by decide
  simp [componentBody, hmark, hname, KeyedQuotation.brace_not_mem_source]

theorem read_componentBody (name : Word) (qs : List KeyedQuotation) :
    read (componentBody name qs)
      = .component name.chars (trim (qs.flatMap KeyedQuotation.source)) := by
  refine ofTrimmed_component name.ne_nil name.isWord (fun c hc => ?_) ?_
  · exact isWord_of_isBlank (KeyedQuotation.isBlank_of_mem_head?_sources qs c hc)
  · exact not_isBlank_of_mem_getLast?_flatMap KeyedQuotation.exists_source_eq_concat qs

end Tag

/-- Several quoted texts after a word call the helper of that name with these texts. -/
theorem Expression.read_helperBody (name : Text.Word) {qs : List Quotation} (h : qs ≠ []) :
    read (Tag.helperBody name qs) = .call name.chars (qs.map Quotation.quoted) := by
  have hblank := Quotation.isBlank_of_mem_head?_sources qs
  have hany : (Tag.helperBody name qs).any Text.isBlank = true := by
    obtain ⟨c, cs, hcs⟩ := List.exists_cons_of_ne_nil (Quotation.sources_ne_nil h)
    have hc : c ∈ Tag.helperBody name qs := by simp [Tag.helperBody, hcs]
    exact List.any_eq_true.2 ⟨c, hc, hblank c (by rw [hcs]; rfl)⟩
  rw [read, if_pos hany, Tag.helperBody, tokens_word_append name hblank, Quotation.tokens_sources]

end Stencil
