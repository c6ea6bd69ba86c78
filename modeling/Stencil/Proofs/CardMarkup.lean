import Stencil.Card.Site
import Stencil.Proofs.Markup
import Stencil.Proofs.Outcome

set_option autoImplicit false

/-! # Records put no markup into a card

A card that is shown has the fixed markup of its parts, and between it the texts of its terms, each
escaped once (`exists_follows`). Whether such a text can end up inside a tag depends on the markup of
the card alone (`Leads`). In the cards of the site every term stands between tags or in a quoted
attribute, which its text cannot leave (`site_sealed`). -/

namespace Stencil

namespace Html

/-! ## Places in markup -/

/-- Where a text of markup can go on. -/
inductive Place where
  /-- Between tags. -/
  | text
  /-- In a tag, outside the quotes of an attribute. -/
  | tag
  | doubleQuoted
  | singleQuoted
  deriving DecidableEq, Repr

namespace Place

/-- The place after a character. -/
def next : Place → Char → Place
  | .text, '<' => .tag
  | .tag, '>' => .text
  | .tag, '"' => .doubleQuoted
  | .tag, '\'' => .singleQuoted
  | .doubleQuoted, '"' => .tag
  | .singleQuoted, '\'' => .tag
  | p, _ => p

/-- The place after a text. -/
def after (p : Place) (cs : List Char) : Place :=
  cs.foldl next p

theorem after_append (p : Place) (as bs : List Char) : p.after (as ++ bs) = (p.after as).after bs :=
  List.foldl_append

theorem next_of_not_isMarkup (p : Place) {c : Char} (h : isMarkup c = false) : p.next c = p := by
  simp only [isMarkup, Bool.or_eq_false_iff, beq_eq_false_iff_ne] at h
  obtain ⟨⟨⟨hlt, hgt⟩, hquote⟩, hapostrophe⟩ := h
  cases p <;> unfold next <;> split <;> first | rfl | contradiction

/-- A text without markup stays where it is. -/
theorem after_of_noMarkup (p : Place) {cs : List Char} (h : ∀ c ∈ cs, isMarkup c = false) :
    p.after cs = p := by
  induction cs with
  | nil => rfl
  | cons c cs ih =>
      obtain ⟨hc, hcs⟩ := List.forall_mem_cons.1 h
      rw [after, List.foldl_cons, next_of_not_isMarkup p hc]
      exact ih hcs

end Place

end Html

namespace Card

open Html

/-! ## Spans of a card -/

/-- A span of a card that is shown. -/
inductive Span where
  /-- Markup of the card. -/
  | fixed (s : String)
  /-- A text that a term is printed as. -/
  | shown (s : String)

namespace Span

/-- What the span leaves in a page. -/
def source : Span → String
  | .fixed s => s
  | .shown s => escape s

/-- What spans leave in a page, one after the other. -/
def concat (out : List Span) : String :=
  String.join (out.map source)

theorem concat_nil : concat [] = "" := rfl

theorem concat_cons (x : Span) (out : List Span) : concat (x :: out) = x.source ++ concat out := by
  rw [concat, List.map_cons, String.join_cons, concat]

theorem concat_append (as bs : List Span) : concat (as ++ bs) = concat as ++ concat bs := by
  rw [concat, List.map_append, String.join_append, concat, concat]

/-- The markup of the card that the span is. -/
def ownText : Span → List Char
  | .fixed s => s.toList
  | .shown _ => []

theorem inert_source_shown (s : String) : Inert (source (.shown s)).toList := by
  rw [source, escape, String.toList_ofList]
  exact inert_escapeChars _

end Span

/-- The spans follow the parts: all markup is there, in its place and its order, but that of a part
    under a condition may be left out, and that of a repeated part may be there any number of
    times. -/
inductive Follows : List Part → List Span → Prop
  | nil : Follows [] []
  | markup (s : String) {ps : List Part} {out : List Span} :
      Follows ps out → Follows (.markup s :: ps) (.fixed s :: out)
  | print (t : Term) (s : String) {ps : List Part} {out : List Span} :
      Follows ps out → Follows (.print t :: ps) (.shown s :: out)
  | absent (t : Term) (body : List Part) {ps : List Part} {out : List Span} :
      Follows ps out → Follows (.when t body :: ps) out
  | present (t : Term) {body ps : List Part} {inner out : List Span} :
      Follows body inner → Follows ps out → Follows (.when t body :: ps) (inner ++ out)
  | done (t : Term) (body : List Part) {ps : List Part} {out : List Span} :
      Follows ps out → Follows (.forEach t body :: ps) out
  | again (t : Term) {body ps : List Part} {inner out : List Span} :
      Follows body inner → Follows (.forEach t body :: ps) out →
        Follows (.forEach t body :: ps) (inner ++ out)

/-- The text is made of spans that may stand before those of any further parts. -/
def Begins (p : Part) (text : String) : Prop :=
  ∃ inner, text = Span.concat inner ∧
    ∀ ps out, Follows ps out → Follows (p :: ps) (inner ++ out)

theorem begins_forEach {text : Value → Outcome String} {body : List Part} (t : Term)
    (h : ∀ x s, text x = .ok s → ∃ inner, s = Span.concat inner ∧ Follows body inner)
    (items : List Value) : ∀ {s : String}, concatItems text items = .ok s →
      Begins (.forEach t body) s := by
  induction items with
  | nil =>
      intro s hs
      cases hs
      exact ⟨[], rfl, fun ps out hout => .done t body hout⟩
  | cons x items ih =>
      intro s hs
      obtain ⟨s₁, hs₁, hs⟩ := bind_eq_ok.1 hs
      obtain ⟨s₂, hs₂, hs⟩ := bind_eq_ok.1 hs
      cases hs
      obtain ⟨first, rfl, hfirst⟩ := h x s₁ hs₁
      obtain ⟨rest, rfl, hrest⟩ := ih hs₂
      refine ⟨first ++ rest, (Span.concat_append _ _).symm, fun ps out hout => ?_⟩
      rw [List.append_assoc]
      exact .again t hfirst (hrest ps out hout)

mutual

theorem begins_of_renderPart [Attributes] : ∀ (p : Part) (slots : Slots) {s : String},
    renderPart slots p = .ok s → Begins p s
  | .markup t, slots, s, h => by
      cases h
      exact ⟨[.fixed t], by simp [Span.concat, Span.source], fun ps out hout => .markup t hout⟩
  | .print t, slots, s, h => by
      obtain ⟨v, -, h⟩ := bind_eq_ok.1 h
      obtain ⟨shown, -, h⟩ := bind_eq_ok.1 h
      cases h
      exact ⟨[.shown shown], by simp [Span.concat, Span.source],
        fun ps out hout => .print t shown hout⟩
  | .when t body, slots, s, h => by
      obtain ⟨v, -, h⟩ := bind_eq_ok.1 h
      split at h
      · obtain ⟨inner, rfl, hinner⟩ := exists_follows body slots h
        exact ⟨inner, rfl, fun ps out hout => .present t hinner hout⟩
      · cases h
        exact ⟨[], rfl, fun ps out hout => .absent t body hout⟩
  | .forEach t body, slots, s, h => by
      obtain ⟨v, -, h⟩ := bind_eq_ok.1 h
      obtain ⟨items, -, h⟩ := bind_eq_ok.1 h
      exact begins_forEach t (fun x s hs => exists_follows body { slots with item := x } hs) items h

/-- What parts leave in a page is made of spans that follow them. -/
theorem exists_follows [Attributes] : ∀ (ps : List Part) (slots : Slots) {s : String},
    renderParts slots ps = .ok s → ∃ out, s = Span.concat out ∧ Follows ps out
  | [], slots, s, h => by
      cases h
      exact ⟨[], rfl, .nil⟩
  | p :: ps, slots, s, h => by
      obtain ⟨s₁, hs₁, h⟩ := bind_eq_ok.1 h
      obtain ⟨s₂, hs₂, h⟩ := bind_eq_ok.1 h
      cases h
      obtain ⟨inner, rfl, hinner⟩ := begins_of_renderPart p slots hs₁
      obtain ⟨out, rfl, hout⟩ := exists_follows ps slots hs₂
      exact ⟨inner ++ out, (Span.concat_append _ _).symm, hinner ps out hout⟩

end

/-! ## Where a card shows texts -/

/-- No text is shown inside a tag, outside the quotes of an attribute. -/
def Contained (p : Place) (out : List Span) : Prop :=
  ∀ before s rest, out = before ++ .shown s :: rest → p.after (Span.concat before).toList ≠ .tag

theorem contained_nil (p : Place) : Contained p [] := by
  intro before s rest h
  simp at h

theorem contained_cons {p : Place} {x : Span} {out : List Span} :
    Contained p (x :: out) ↔
      (∀ s, x = .shown s → p ≠ .tag) ∧ Contained (p.after x.source.toList) out := by
  constructor
  · refine fun h => ⟨fun s hx => h [] s out (by rw [hx, List.nil_append]), ?_⟩
    intro before s rest hout
    have hplace := h (x :: before) s rest (by rw [hout, List.cons_append])
    rwa [Span.concat_cons, String.toList_append, Place.after_append] at hplace
  · rintro ⟨hx, hout⟩ before s rest heq
    cases before with
    | nil => exact hx s (List.cons.inj heq).1
    | cons y before =>
        obtain ⟨rfl, rfl⟩ := List.cons.inj heq
        rw [Span.concat_cons, String.toList_append, Place.after_append]
        exact hout before s rest rfl

theorem Contained.append {out : List Span} : ∀ {inner : List Span} {p : Place}, Contained p inner →
    Contained (p.after (Span.concat inner).toList) out → Contained p (inner ++ out)
  | [], _, _, h => h
  | x :: inner, p, hinner, h => by
      obtain ⟨hx, hinner⟩ := contained_cons.1 hinner
      rw [Span.concat_cons, String.toList_append, Place.after_append] at h
      exact contained_cons.2 ⟨hx, hinner.append h⟩

/-- Spans that lead back to where they start may stand before others. -/
theorem contained_append {p q : Place} {inner out : List Span}
    (hinner : Contained p inner ∧ p.after (Span.concat inner).toList = p)
    (hout : Contained p out ∧ p.after (Span.concat out).toList = q) :
    Contained p (inner ++ out) ∧ p.after (Span.concat (inner ++ out)).toList = q := by
  obtain ⟨hinner, hsame⟩ := hinner
  refine ⟨hinner.append (by rw [hsame]; exact hout.1), ?_⟩
  rw [Span.concat_append, String.toList_append, Place.after_append, hsame]
  exact hout.2

/-- The parts lead from one place to another, whatever is shown: what may be left out or repeated
    leads back to where it starts. No term is printed inside a tag, outside the quotes of an
    attribute. -/
inductive Leads : Place → List Part → Place → Prop
  | nil (p : Place) : Leads p [] p
  | markup {p q : Place} {s : String} {ps : List Part} :
      Leads (p.after s.toList) ps q → Leads p (.markup s :: ps) q
  | print {p q : Place} (t : Term) {ps : List Part} :
      p ≠ .tag → Leads p ps q → Leads p (.print t :: ps) q
  | when {p q : Place} (t : Term) {body ps : List Part} :
      Leads p body p → Leads p ps q → Leads p (.when t body :: ps) q
  | forEach {p q : Place} (t : Term) {body ps : List Part} :
      Leads p body p → Leads p ps q → Leads p (.forEach t body :: ps) q

/-- A text that is shown stays where it is. -/
theorem after_source_shown (p : Place) (s : String) : p.after (Span.source (.shown s)).toList = p :=
  p.after_of_noMarkup (Span.inert_source_shown s).noMarkup

/-- Where the parts of a card lead, all that the card can show leads as well. -/
theorem Follows.contained {ps : List Part} {out : List Span} (h : Follows ps out) :
    ∀ {p q : Place}, Leads p ps q → Contained p out ∧ p.after (Span.concat out).toList = q := by
  induction h with
  | nil =>
      rintro p q ⟨⟩
      exact ⟨contained_nil p, rfl⟩
  | markup s _ ih =>
      rintro p q ⟨⟩
      rename_i hps
      obtain ⟨hout, hplace⟩ := ih hps
      refine ⟨contained_cons.2 ⟨nofun, hout⟩, ?_⟩
      rw [Span.concat_cons, String.toList_append, Place.after_append]
      exact hplace
  | print t s _ ih =>
      rintro p q ⟨⟩
      rename_i htag hps
      obtain ⟨hout, hplace⟩ := ih hps
      have hsame := after_source_shown p s
      refine ⟨contained_cons.2 ⟨fun _ _ => htag, by rwa [hsame]⟩, ?_⟩
      rw [Span.concat_cons, String.toList_append, Place.after_append, hsame]
      exact hplace
  | absent t body _ ih =>
      rintro p q ⟨⟩
      rename_i hps
      exact ih hps
  | present t _ _ ihbody ih =>
      rintro p q ⟨⟩
      rename_i hbody hps
      exact contained_append (ihbody hbody) (ih hps)
  | done t body _ ih =>
      rintro p q ⟨⟩
      rename_i hps
      exact ih hps
  | @again t body ps inner out _ _ ihbody ih =>
      intro p q h
      have hbody : Leads p body p := by
        cases h
        assumption
      exact contained_append (ihbody hbody) (ih h)

/-- Fixed markup leads where its characters do. -/
theorem Leads.markup_ofList {p q : Place} {s : String} {cs : List Char} {ps : List Part}
    (hs : s = String.ofList cs) (h : Leads (p.after cs) ps q) : Leads p (.markup s :: ps) q := by
  refine .markup ?_
  rwa [hs, String.toList_ofList]

theorem Leads.markup_append {p q : Place} {s t : String} {cs ds : List Char} {ps : List Part}
    (hs : s = String.ofList cs) (ht : t = String.ofList ds) (h : Leads (p.after (cs ++ ds)) ps q) :
    Leads p (.markup (s ++ t) :: ps) q := by
  refine .markup_ofList ?_ h
  rw [hs, ht, String.ofList_append]

/-! ## Cards -/

/-- All markup of what is shown is that of the card. -/
theorem Span.filter_isMarkup_concat (out : List Span) :
    (concat out).toList.filter isMarkup = (out.flatMap ownText).filter isMarkup := by
  induction out with
  | nil => rfl
  | cons x out ih =>
      rw [concat_cons, String.toList_append, List.filter_append, ih, List.flatMap_cons,
        List.filter_append]
      cases x with
      | fixed s => rfl
      | shown s =>
          rw [(inert_source_shown s).filter_isMarkup]
          rfl

/-- What is shown consists of markup of the card and of inert texts. These stand between tags or in
    quoted attributes, which they do not leave, and all tags are closed in the end. -/
structure Sealed (c : Card) (out : List Span) : Prop where
  follows : out = [] ∨ Follows c.parts out
  inert : ∀ s, .shown s ∈ out → Inert (Span.source (.shown s)).toList
  contained : Contained .text out
  stays : ∀ before s, Place.text.after (Span.concat (before ++ [.shown s])).toList
    = Place.text.after (Span.concat before).toList
  closed : Place.text.after (Span.concat out).toList = .text
  markup : (Span.concat out).toList.filter isMarkup = (out.flatMap Span.ownText).filter isMarkup

theorem sealed_of_follows {c : Card} {out : List Span} (h : out = [] ∨ Follows c.parts out)
    (hc : Leads .text c.parts .text) : c.Sealed out := by
  have hplaces : Contained .text out ∧ Place.text.after (Span.concat out).toList = .text := by
    rcases h with rfl | h
    · exact ⟨contained_nil _, rfl⟩
    · exact h.contained hc
  refine ⟨h, fun s _ => Span.inert_source_shown s, hplaces.1, fun before s => ?_, hplaces.2,
    Span.filter_isMarkup_concat out⟩
  rw [Span.concat_append, String.toList_append, Place.after_append, Span.concat_cons,
    Span.concat_nil, String.append_empty, after_source_shown]

/-- A card that is shown is a text that follows its parts, or empty if there is no record. -/
theorem exists_of_component [Attributes] {c : Card} {helpers : Registry Helper}
    {arguments : Entries}
    {scope : Scope} {v : Value} (h : c.component helpers arguments scope = .ok v) :
    ∃ out, v = .str (Span.concat out) ∧ (out = [] ∨ Follows c.parts out) := by
  unfold component at h
  split at h
  · cases h
    exact ⟨[], rfl, Or.inl rfl⟩
  · split at h
    · obtain ⟨text, htext, h⟩ := bind_eq_ok.1 h
      cases h
      obtain ⟨out, rfl, hout⟩ := exists_follows c.parts _ htext
      exact ⟨out, rfl, Or.inr hout⟩
    · cases h
      exact ⟨[], rfl, Or.inl rfl⟩

set_option maxRecDepth 4000 in
/-- No term of the cards of the site is printed inside a tag, and their parts leave no tag open. -/
theorem leads_site : ∀ c ∈ site, Leads .text c.parts .text := by
  intro c hc
  simp only [site, List.mem_cons, List.not_mem_nil, or_false] at hc
  -- The parts of a card say which step of the derivation comes next.
  rcases hc with rfl | rfl | rfl | rfl <;> repeat' first
    | refine .markup_ofList rfl ?_
    | refine .markup_append rfl rfl ?_
    | refine .print _ (by decide) ?_
    | refine .when _ ?_ ?_
    | refine .forEach _ ?_ ?_
    | exact .nil _

/-- **Records put no markup into a card.** Whatever the record and the helpers, what a card of the
    site shows, if it does not fail, consists of markup of the card, in the order of its parts, and of
    escaped texts that add no tag and leave no attribute. The tag of the card puts just this into a
    page, or nothing if the card fails. -/
theorem site_sealed [Attributes] {c : Card} (hc : c ∈ site) :
    (∀ helpers arguments scope v, c.component helpers arguments scope = .ok v →
      ∃ out, v = .str (Span.concat out) ∧ c.Sealed out) ∧
    (∀ (f : Functions) (scope : Scope) (arguments : List Char),
      f.components.get? c.name = some c.component →
        ∃ out, (f.expand scope c.name arguments).outcome = .ok (Span.concat out) ∧
          c.Sealed out) := by
  have hplace := leads_site c hc
  have hsealed : ∀ helpers arguments scope v, c.component helpers arguments scope = .ok v →
      ∃ out, v = .str (Span.concat out) ∧ c.Sealed out := by
    intro helpers arguments scope v h
    obtain ⟨out, hv, hout⟩ := exists_of_component h
    exact ⟨out, hv, sealed_of_follows hout hplace⟩
  refine ⟨hsealed, fun f scope arguments hget => ?_⟩
  rw [Functions.expand, hget]
  dsimp only
  cases h : c.component f.helpers (Argument.keywordValues scope.value arguments) scope with
  | error fault => exact ⟨[], rfl, sealed_of_follows (Or.inl rfl) hplace⟩
  | ok v =>
      obtain ⟨out, rfl, hout⟩ := hsealed _ _ _ _ h
      have hdisplay : (Value.str (Span.concat out)).display = .ok (Span.concat out) :=
        Value.display_eq_ok_iff.2 ⟨rfl, rfl⟩
      exact ⟨out, hdisplay, hout⟩

/-- A term whose fields look like markup, with a helper of the site's own. -/
theorem site_sealed_glossaryTerm :
    (∃ out, glossaryTerm.component [("capitalize", fun _ _ => .ok (.str "\"><b>"))]
        (Entries.ofFields [("term", .map (Entries.ofFields [
          ("term", .str "<script>&lt;"), ("alternateNames", .list [.str "'", .int 3]),
          ("difficulty", .str "\" onclick=\"")]))]) .empty = .ok (.str (Span.concat out)) ∧
      glossaryTerm.Sealed out) ∧
    ∃ out, ((Engine.bare 1 []).registerSite.functions.expand .empty "glossaryTerm"
        "term=t".toList).outcome = .ok (Span.concat out) ∧ glossaryTerm.Sealed out := by
  have hsite : glossaryTerm ∈ site := by simp [site]
  obtain ⟨hcomponent, hexpand⟩ := site_sealed hsite
  constructor
  · have hok : (glossaryTerm.component [("capitalize", fun _ _ => .ok (.str "\"><b>"))]
        (Entries.ofFields [("term", .map (Entries.ofFields [
          ("term", .str "<script>&lt;"), ("alternateNames", .list [.str "'", .int 3]),
          ("difficulty", .str "\" onclick=\"")]))]) .empty).isOk = true := by decide +kernel
    obtain ⟨v, hv⟩ := exists_eq_ok_of_isOk hok
    obtain ⟨out, rfl, hout⟩ := hcomponent _ _ _ v hv
    exact ⟨out, hv, hout⟩
  · exact hexpand _ .empty _ rfl

end Card

end Stencil
