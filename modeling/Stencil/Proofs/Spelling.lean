import Stencil.Proofs.Trim
import Stencil.Template.Tag

set_option autoImplicit false

/-! # Spellings of a tag

A tag can be written in many ways, which differ in the blanks at its ends and between its parts.
`Tag.Spells` lists them, `Tag.Proper` says which tags there are, and `read_eq_iff` says that the
spellings of a tag are just what is read as it. -/

namespace Stencil

namespace Text

/-- No blank is a word character. -/
theorem isWord_of_isBlank {c : Char} (h : isBlank c = true) : isWord c = false := by
  have hcodes : ∀ n ∈ List.range' 9 5 ++ List.range' 28 5 ++ List.range' 0x2000 11 ++
      [0x85, 0xA0, 0x1680, 0x2028, 0x2029, 0x202F, 0x205F, 0x3000],
      isWord (Char.ofNat n) = false := by decide +kernel
  rw [← Char.ofNat_toNat c]
  refine hcodes _ ?_
  simp only [isBlank, Bool.or_eq_true, Bool.and_eq_true, decide_eq_true_eq, beq_iff_eq] at h
  simp only [List.mem_append, List.mem_range'_1, List.mem_cons, List.not_mem_nil, or_false]
  omega

theorem takeWhile_append_eq_left {p : Char → Bool} {front rest : List Char}
    (hfront : ∀ c ∈ front, p c = true) (hrest : ∀ c ∈ rest.head?, p c = false) :
    (front ++ rest).takeWhile p = front := by
  rw [List.takeWhile_append_of_pos hfront]
  cases rest with
  | nil => simp
  | cons c rest => simp [hrest c rfl]

theorem dropWhile_append_eq_right {p : Char → Bool} {front rest : List Char}
    (hfront : ∀ c ∈ front, p c = true) (hrest : ∀ c ∈ rest.head?, p c = false) :
    (front ++ rest).dropWhile p = rest := by
  rw [List.dropWhile_append_of_pos hfront]
  cases rest with
  | nil => rfl
  | cons c rest => simp [hrest c rfl]

end Text

namespace Tag

open Text

/-! ## Parts of a tag -/

theorem subject?_eq_some {kind : BlockKind} {body subject : List Char} :
    subject? kind body = some subject ↔
      ∃ c cs, body = '#' :: kind.word ++ c :: cs ∧ isBlank c = true ∧ subject = trim cs := by
  constructor
  · intro h
    unfold subject? at h
    split at h
    · rename_i c cs hprefix
      split at h
      · rename_i hc
        cases h
        exact ⟨c, cs, (List.isPrefixOf?_eq_some_iff_append_eq.1 hprefix).symm, hc, rfl⟩
      · cases h
    · cases h
  · rintro ⟨c, cs, rfl, hc, rfl⟩
    rw [subject?, List.isPrefixOf?_eq_some_iff_append_eq.2 rfl]
    exact if_pos hc

theorem call?_eq_some {body name arguments : List Char} :
    call? body = some (name, arguments) ↔
      ∃ rest, body = componentMark ++ name ++ rest ∧ name ≠ [] ∧ (∀ c ∈ name, isWord c = true) ∧
        (∀ c ∈ rest.head?, isWord c = false) ∧ arguments = trim rest := by
  constructor
  · intro h
    unfold call? at h
    split at h
    · rename_i cs hprefix
      obtain rfl := List.isPrefixOf?_eq_some_iff_append_eq.1 hprefix
      split at h
      · cases h
      · rename_i hne
        cases h
        refine ⟨cs.dropWhile isWord, ?_, hne, fun c hc => List.mem_takeWhile_imp hc, ?_, rfl⟩
        · rw [List.append_assoc, List.takeWhile_append_dropWhile]
        · intro c hc
          have := List.head?_dropWhile_not isWord cs
          rw [Option.mem_def.1 hc] at this
          exact this
    · cases h
  · rintro ⟨rest, rfl, hne, hname, hrest, rfl⟩
    rw [call?, List.isPrefixOf?_eq_some_iff_append_eq.2 (List.append_assoc _ _ _).symm]
    dsimp only
    rw [takeWhile_append_eq_left hname hrest, dropWhile_append_eq_right hname hrest]
    cases name with
    | nil => exact absurd rfl hne
    | cons c name => rfl

/-! ## Spellings -/

/-- A tag without blanks around it. Blanks stand between the word of a block and its subject; those
    between the name of a component and its arguments may be missing where the name ends anyway. -/
inductive Core : Tag → List Char → Prop
  | opening (kind : BlockKind) (subject : List Char) {gap : List Char} : Blank gap → gap ≠ [] →
      Core (.opening kind subject) ('#' :: kind.word ++ gap ++ subject)
  | closing (kind : BlockKind) : Core (.closing kind) ('/' :: kind.word)
  | component (name arguments : List Char) {gap : List Char} : Blank gap →
      (gap = [] → ∀ c ∈ arguments.head?, isWord c = false) →
        Core (.component name arguments) (componentMark ++ name ++ gap ++ arguments)
  | expression (e : List Char) : Core (.variable e) e

/-- The body of a tag says what a tag is: the tag, with blanks around it. -/
def Spells (tag : Tag) (body : List Char) : Prop :=
  ∃ before core after, Blank before ∧ Blank after ∧ tag.Core core ∧ body = before ++ core ++ after

/-- Tags that can be read: their parts are trimmed, the subject of a block and the name of a
    component are not empty, and an expression is no other tag. -/
def Proper : Tag → Prop
  | .opening _ subject => subject ≠ [] ∧ trim subject = subject
  | .closing _ => True
  | .component name arguments =>
    name ≠ [] ∧ (∀ c ∈ name, isWord c = true) ∧ trim arguments = arguments
  | .variable e => ofTrimmed e = .variable e ∧ trim e = e

/-! ## What is read is spelled so -/

/-- What a trimmed body says. -/
theorem ofTrimmed_cases (body : List Char) :
    (∃ kind subject, subject? kind body = some subject ∧ ofTrimmed body = .opening kind subject) ∨
    (∃ kind : BlockKind, body = '/' :: kind.word ∧ ofTrimmed body = .closing kind) ∨
    (∃ name arguments, call? body = some (name, arguments) ∧
      ofTrimmed body = .component name arguments) ∨
    ofTrimmed body = .variable body := by
  unfold ofTrimmed
  split
  · rename_i h
    exact Or.inl ⟨_, _, h, rfl⟩
  · rename_i h
    exact Or.inl ⟨_, _, h, rfl⟩
  · split
    · rename_i h
      exact Or.inr (Or.inl ⟨_, h, rfl⟩)
    · split
      · rename_i h
        exact Or.inr (Or.inl ⟨_, h, rfl⟩)
      · split
        · rename_i h
          exact Or.inr (Or.inr (Or.inl ⟨_, _, h, rfl⟩))
        · exact Or.inr (Or.inr (Or.inr rfl))

theorem proper_ofTrimmed {body : List Char} (hbody : trim body = body) :
    (ofTrimmed body).Proper := by
  rcases ofTrimmed_cases body with ⟨kind, subject, h, htag⟩ | ⟨kind, h, htag⟩ |
    ⟨name, arguments, h, htag⟩ | htag
  · obtain ⟨c, cs, rfl, hc, rfl⟩ := subject?_eq_some.1 h
    rw [htag]
    -- With an empty subject, the body would end with the blank before it.
    refine ⟨fun hnil => ?_, trim_trim cs⟩
    have hblank : Blank (c :: cs) := List.forall_mem_cons.2 ⟨hc, trim_eq_nil_iff.1 hnil⟩
    exact not_blank_of_trim_append hbody (List.cons_ne_nil c cs) hblank
  · rw [htag]
    trivial
  · obtain ⟨rest, rfl, hne, hname, -, rfl⟩ := call?_eq_some.1 h
    rw [htag]
    exact ⟨hne, hname, trim_trim rest⟩
  · rw [htag]
    exact ⟨htag, hbody⟩

/-- What follows the word of a block or the name of a component is blanks, a part of the tag, and
    blanks. -/
theorem spells_ofTrimmed (body : List Char) : (ofTrimmed body).Spells body := by
  rcases ofTrimmed_cases body with ⟨kind, subject, h, htag⟩ | ⟨kind, h, htag⟩ |
    ⟨name, arguments, h, htag⟩ | htag
  · obtain ⟨c, cs, rfl, hc, rfl⟩ := subject?_eq_some.1 h
    obtain ⟨as, bs, has, hbs, hcs⟩ := exists_eq_pad cs
    have hgap : Blank (c :: as) := List.forall_mem_cons.2 ⟨hc, has⟩
    rw [htag]
    refine ⟨[], _, bs, blank_nil, hbs, .opening kind (trim cs) hgap (by simp), ?_⟩
    conv_lhs => rw [hcs]
    simp
  · rw [htag, h]
    exact ⟨[], _, [], blank_nil, blank_nil, .closing kind, by simp⟩
  · obtain ⟨rest, rfl, -, -, hrest, rfl⟩ := call?_eq_some.1 h
    obtain ⟨as, bs, has, hbs, hcs⟩ := exists_eq_pad rest
    -- Without blanks, the name ends before a character that is part of the arguments.
    have hglued : as = [] → ∀ c ∈ (trim rest).head?, isWord c = false := by
      rintro rfl c hc
      refine hrest c ?_
      rw [hcs, List.nil_append]
      exact List.mem_head?_append_of_mem_head? hc
    rw [htag]
    refine ⟨[], _, bs, blank_nil, hbs, .component name (trim rest) has hglued, ?_⟩
    conv_lhs => rw [hcs]
    simp
  · rw [htag]
    exact ⟨[], _, [], blank_nil, blank_nil, .expression body, by simp⟩

/-- Blanks around a spelling make another one. -/
theorem Spells.pad {tag : Tag} {body before after : List Char} (h : tag.Spells body)
    (hbefore : Blank before) (hafter : Blank after) : tag.Spells (before ++ body ++ after) := by
  obtain ⟨as, core, bs, has, hbs, hcore, rfl⟩ := h
  refine ⟨before ++ as, core, bs ++ after, blank_append.2 ⟨hbefore, has⟩,
    blank_append.2 ⟨hbs, hafter⟩, hcore, ?_⟩
  simp only [List.append_assoc]

theorem spells_read (body : List Char) : (read body).Spells body := by
  obtain ⟨as, bs, has, hbs, hbody⟩ := exists_eq_pad body
  have h := (spells_ofTrimmed (trim body)).pad has hbs
  rwa [← hbody] at h

/-! ## What is spelled so is read -/

theorem ofTrimmed_of_subject? {kind : BlockKind} {body subject : List Char}
    (h : subject? kind body = some subject) : ofTrimmed body = .opening kind subject := by
  cases kind with
  | conditional => rw [ofTrimmed, h]
  | loop =>
      have hother : subject? .conditional body = none := by
        obtain ⟨c, cs, rfl, -⟩ := subject?_eq_some.1 h
        rfl
      rw [ofTrimmed, hother, h]

theorem ofTrimmed_of_call? {body name arguments : List Char}
    (h : call? body = some (name, arguments)) : ofTrimmed body = .component name arguments := by
  obtain ⟨rest, hbody, -⟩ := call?_eq_some.1 h
  have hsubject (kind : BlockKind) : subject? kind body = none := by
    rw [hbody]
    cases kind <;> rfl
  have hclosing (kind : BlockKind) : body ≠ '/' :: kind.word := by
    rw [hbody]
    cases kind <;> exact fun h => nomatch h
  rw [ofTrimmed, hsubject, hsubject, if_neg (hclosing _), if_neg (hclosing _), h]

theorem trim_opening {kind : BlockKind} {gap subject : List Char} (hne : subject ≠ [])
    (hsubject : trim subject = subject) :
    trim ('#' :: kind.word ++ gap ++ subject) = '#' :: kind.word ++ gap ++ subject := by
  refine trim_eq_self_iff.2 ⟨fun c hc => ?_, ?_⟩
  · cases hc
    rfl
  · rw [List.getLast?_append_of_ne_nil _ hne]
    exact (trim_eq_self_iff.1 hsubject).2

theorem trim_component {name rest : List Char} (hne : name ≠ [])
    (hname : ∀ c ∈ name, isWord c = true) (hrest : ∀ c ∈ rest.getLast?, isBlank c = false) :
    trim (componentMark ++ name ++ rest) = componentMark ++ name ++ rest := by
  refine trim_eq_self_iff.2 ⟨fun c hc => ?_, ?_⟩
  · cases hc
    rfl
  · by_cases hnil : rest = []
    · rw [hnil, List.append_nil, List.getLast?_append_of_ne_nil _ hne]
      intro c hc
      by_contra hblank
      have hword := hname c (List.mem_of_getLast? hc)
      rw [isWord_of_isBlank (eq_true_of_ne_false hblank)] at hword
      cases hword
    · rwa [List.getLast?_append_of_ne_nil _ hnil]

/-- What follows the name of a component, if it does not end with a blank, has the arguments. -/
theorem ofTrimmed_component {name rest : List Char} (hne : name ≠ [])
    (hname : ∀ c ∈ name, isWord c = true) (hend : ∀ c ∈ rest.head?, isWord c = false)
    (hlast : ∀ c ∈ rest.getLast?, isBlank c = false) :
    ofTrimmed (trim (componentMark ++ name ++ rest)) = .component name (trim rest) := by
  rw [trim_component hne hname hlast]
  exact ofTrimmed_of_call? (call?_eq_some.2 ⟨rest, rfl, hne, hname, hend, rfl⟩)

theorem ofTrimmed_of_core {tag : Tag} {core : List Char} (htag : tag.Proper) (hcore : tag.Core core) :
    ofTrimmed (trim core) = tag := by
  cases hcore with
  | @opening kind subject gap hgap hne =>
      obtain ⟨hsubject, htrim⟩ := htag
      obtain ⟨c, cs, rfl⟩ := List.exists_cons_of_ne_nil hne
      obtain ⟨hc, hcs⟩ := List.forall_mem_cons.1 hgap
      have hpad : trim (cs ++ subject ++ []) = trim subject := trim_pad hcs blank_nil subject
      rw [trim_opening hsubject htrim]
      refine ofTrimmed_of_subject? (subject?_eq_some.2 ⟨c, cs ++ subject, by simp, hc, ?_⟩)
      rw [← List.append_nil (cs ++ subject), hpad, htrim]
  | closing kind => cases kind <;> decide +kernel
  | @component name arguments gap hgap hglued =>
      obtain ⟨hne, hname, htrim⟩ := htag
      by_cases hnil : arguments = []
      · -- Without arguments, the blanks after the name are padding.
        subst hnil
        have hpad := trim_pad blank_nil hgap (componentMark ++ name)
        have hcall := @ofTrimmed_component name [] hne hname (by simp) (by simp)
        rw [List.append_nil, ← hpad] at hcall
        rw [List.append_nil]
        exact hcall
      · have hend : ∀ c ∈ (gap ++ arguments).head?, isWord c = false := by
          cases gap with
          | nil => exact hglued rfl
          | cons d gap =>
              intro c hc
              cases hc
              exact isWord_of_isBlank (hgap d List.mem_cons_self)
        have hlast : ∀ c ∈ (gap ++ arguments).getLast?, isBlank c = false := by
          rw [List.getLast?_append_of_ne_nil _ hnil]
          exact (trim_eq_self_iff.1 htrim).2
        have hpad : trim (gap ++ arguments ++ []) = trim arguments := trim_pad hgap blank_nil arguments
        rw [List.append_nil, htrim] at hpad
        rw [List.append_assoc, ofTrimmed_component hne hname hend hlast, hpad]
  | expression e =>
      obtain ⟨h, htrim⟩ := htag
      rw [htrim, h]

/-- A tag that can be read is read from each of its spellings. -/
theorem read_of_spells {tag : Tag} {body : List Char} (htag : tag.Proper) (h : tag.Spells body) :
    read body = tag := by
  obtain ⟨before, core, after, hbefore, hafter, hcore, rfl⟩ := h
  rw [read, trim_pad hbefore hafter]
  exact ofTrimmed_of_core htag hcore

/-- The spellings of a tag that can be read are what is read as it. -/
theorem read_eq_iff {tag : Tag} {body : List Char} :
    read body = tag ↔ tag.Proper ∧ tag.Spells body := by
  constructor
  · rintro rfl
    exact ⟨proper_ofTrimmed (trim_trim body), spells_read body⟩
  · exact fun ⟨htag, h⟩ => read_of_spells htag h

/-! ## The usual spelling -/

/-- A tag with one blank between its parts. -/
def written : Tag → List Char
  | .opening kind subject => '#' :: kind.word ++ ' ' :: subject
  | .closing kind => '/' :: kind.word
  | .component name arguments => componentMark ++ name ++ ' ' :: arguments
  | .variable e => e

theorem blank_space : Blank [' '] :=
  List.forall_mem_singleton.2 rfl

theorem core_written (tag : Tag) : tag.Core tag.written := by
  rcases tag with ⟨kind, subject⟩ | kind | ⟨name, arguments⟩ | e
  · have h := Core.opening kind subject blank_space (by simp)
    simpa [written] using h
  · exact .closing kind
  · have h := Core.component name arguments blank_space (by simp)
    simpa [written] using h
  · exact .expression e

/-- A tag with one blank at each end as well. -/
theorem spells_written (tag : Tag) : tag.Spells (' ' :: tag.written ++ [' ']) :=
  ⟨[' '], _, [' '], blank_space, blank_space, tag.core_written, rfl⟩

/-- Spellings of a tag differ in blanks only. -/
theorem Spells.mem_iff {tag : Tag} {body : List Char} (h : tag.Spells body) {c : Char}
    (hc : isBlank c = false) : c ∈ body ↔ c ∈ tag.written := by
  have hblank {cs : List Char} (hcs : Blank cs) : c ∉ cs := by
    intro hmem
    rw [hcs c hmem] at hc
    cases hc
  have hspace : c ≠ ' ' := by
    rintro rfl
    cases hc
  obtain ⟨before, core, after, hbefore, hafter, hcore, rfl⟩ := h
  have hpad : c ∈ before ++ core ++ after ↔ c ∈ core := by
    simp [hblank hbefore, hblank hafter]
  rw [hpad]
  cases hcore with
  | opening kind subject hgap => simp [written, hblank hgap, hspace]
  | closing kind => rfl
  | component name arguments hgap => simp [written, hblank hgap, hspace]
  | expression e => rfl

end Tag

end Stencil
