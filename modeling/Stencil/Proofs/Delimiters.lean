import Stencil.Proofs.Residue
import Stencil.Proofs.Walk

set_option autoImplicit false

/-! # Opening braces outside tags

The check for opening braces goes through the texts between the tags one by one.
`openDelimiterLines_eq` says that it finds what a search through the whole text finds: of the
leftmost pairs of opening braces, none of which overlap (`Text.bracePairs`), those that start outside
all tags. The two searches stay in step since a text before a tag does not end in an opening brace,
and a tag does not either, so that no pair lies across the edge of a tag (`bracePairs_append`).

The pairs that are found are those that stand in the texts of the template: dropping tags that match
nothing joins texts, but makes no pair and takes none apart (`allSealed_parse`, `shows_parse`). -/

namespace Stencil

/-! ## Pairs of opening braces -/

namespace Text

/-- The pairs of opening braces in a text from the left, each as the text before it. A brace belongs
    to one pair at most. -/
def bracePairs : List Char → List (List Char)
  | '{' :: '{' :: cs => [] :: (bracePairs cs).map ('{' :: '{' :: ·)
  | c :: cs => (bracePairs cs).map (c :: ·)
  | [] => []

/-- The leftmost pairs of opening braces in a text, none of which overlap: there is none before the
    first one, and the others are those in the text after it. -/
inductive LeftmostPairs : List Char → List (List Char) → Prop
  | none {cs : List Char} : Untagged cs → LeftmostPairs cs []
  | pair {gap rest : List Char} {pairs : List (List Char)} :
      Untagged (gap ++ ['{']) → LeftmostPairs rest pairs →
        LeftmostPairs (gap ++ '{' :: '{' :: rest) (gap :: pairs.map (gap ++ '{' :: '{' :: ·))

theorem untagged_iff {cs : List Char} : Untagged cs ↔ ¬ ['{', '{'] <:+: cs := by
  refine ⟨not_infix_of_untagged, fun h => ?_⟩
  refine List.isChain_iff_forall_rel_of_append_cons_cons.2 ?_
  rintro a b before after rfl ⟨rfl, rfl⟩
  exact h ⟨before, after, by simp⟩

theorem untagged_cons {c : Char} {cs : List Char} (hc : ∀ ds, c = '{' → cs = '{' :: ds → False)
    (h : Untagged cs) : Untagged (c :: cs) := by
  refine List.isChain_cons.2 ⟨?_, h⟩
  rintro d hd ⟨rfl, rfl⟩
  obtain ⟨ds, rfl⟩ := List.head?_eq_some_iff.1 hd
  exact hc ds rfl rfl

/-- A character that starts no pair goes in front of all texts before pairs. -/
theorem LeftmostPairs.cons {c : Char} {cs : List Char} {pairs : List (List Char)}
    (hc : ∀ ds, c = '{' → cs = '{' :: ds → False) (h : LeftmostPairs cs pairs) :
    LeftmostPairs (c :: cs) (pairs.map (c :: ·)) := by
  cases h with
  | none h => exact .none (untagged_cons hc h)
  | @pair gap rest pairs hgap hrest =>
      have hgap' : Untagged (c :: gap ++ ['{']) := by
        refine untagged_cons (fun ds h hds => ?_) hgap
        cases gap with
        | nil => exact hc ('{' :: rest) h rfl
        | cons d gap =>
            obtain ⟨rfl, -⟩ := List.cons.inj hds
            exact hc _ h rfl
      have hpairs := LeftmostPairs.pair hgap' hrest
      rwa [List.map_cons, List.map_map]

theorem leftmostPairs_bracePairs (cs : List Char) : LeftmostPairs cs (bracePairs cs) := by
  fun_induction bracePairs cs with
  | case1 cs ih => exact @LeftmostPairs.pair [] cs _ (List.isChain_singleton _) ih
  | case2 c cs hc ih => exact ih.cons hc
  | case3 => exact .none List.isChain_nil

/-- A pair takes two characters. -/
theorem length_lt_of_mem_bracePairs {cs before : List Char} (h : before ∈ bracePairs cs) :
    before.length < cs.length := by
  fun_induction bracePairs cs generalizing before with
  | case1 cs ih =>
      rcases List.mem_cons.1 h with rfl | h
      · exact Nat.zero_lt_succ _
      · obtain ⟨before, hbefore, rfl⟩ := List.mem_map.1 h
        have := ih hbefore
        simp only [List.length_cons]
        omega
  | case2 c cs _ ih =>
      obtain ⟨before, hbefore, rfl⟩ := List.mem_map.1 h
      have := ih hbefore
      simp only [List.length_cons]
      omega
  | case3 => cases h

theorem getLast?_cons_of_some {c d : Char} {cs : List Char} (h : cs.getLast? = some d) :
    (c :: cs).getLast? = some d := by
  rw [List.getLast?_cons, h, Option.getD_some]

/-- No pair lies across the end of a text that does not end in an opening brace. -/
theorem bracePairs_append {a : List Char} (h : a.getLast? ≠ some '{') (b : List Char) :
    bracePairs (a ++ b) = bracePairs a ++ (bracePairs b).map (a ++ ·) := by
  fun_induction bracePairs a with
  | case1 cs ih =>
      have hcs : cs.getLast? ≠ some '{' := mt (getLast?_cons_of_some ∘ getLast?_cons_of_some) h
      rw [List.cons_append, List.cons_append, bracePairs, ih hcs, List.map_append, List.map_map]
      rfl
  | case2 c cs hc ih =>
      have hcs : cs.getLast? ≠ some '{' := mt getLast?_cons_of_some h
      have hcb : ∀ ds, c = '{' → cs ++ b = '{' :: ds → False := by
        intro ds hopen heq
        cases cs with
        | nil => exact h (by rw [hopen]; rfl)
        | cons d cs =>
            obtain ⟨rfl, -⟩ := List.cons.inj heq
            exact hc cs hopen rfl
      rw [List.cons_append, bracePairs, ih hcs, List.map_append, List.map_map]
      · rfl
      · exact hcb
  | case3 => simp

end Text

/-- The check for opening braces finds the line of each pair. -/
theorem openDelimiters_eq (line : Nat) (cs : List Char) :
    openDelimiters line cs = (Text.bracePairs cs).map fun before => line + before.count '\n' := by
  fun_induction openDelimiters line cs with
  | case1 line cs ih => simp [Text.bracePairs, ih]
  | case2 line c cs hc ih =>
      rw [Text.bracePairs, ih, List.map_map]
      · refine List.map_congr_left fun before _ => ?_
        by_cases hbreak : c = '\n'
        · simp [hbreak, Nat.add_comm, Nat.add_left_comm]
        · simp [hbreak, List.count_cons_of_ne hbreak]
      · exact hc
  | case3 => rfl

/-! ## Pairs outside tags -/

namespace Segment

/-- Whether a place in a text is one of the characters of a tag, which is given as the text before
    it and its body. -/
def covers (place : Nat) (t : List Char × List Char) : Bool :=
  t.1.length ≤ place && place < t.1.length + (Segment.tag t.2).source.length

/-- The tags of a later part of a text cover no earlier place. -/
theorem covers_tags_of_lt {place : Nat} {ss : List Segment} : ∀ {before : List Char},
    place < before.length → (tags before ss).any (covers place) = false := by
  induction ss with
  | nil => exact fun _ => rfl
  | cons s ss ih =>
      intro before h
      cases s with
      | text cs => exact ih (by rw [List.length_append]; omega)
      | tag body =>
          have hrest := @ih (before ++ (Segment.tag body).source) (by rw [List.length_append]; omega)
          have hbody : covers place (before, body) = false := by simp [covers, h]
          rw [tags, List.any_cons, hbody, hrest, Bool.or_false]

theorem getLast?_source_tag (body : List Char) :
    (Segment.tag body).source.getLast? ≠ some '{' := by
  have hlast : (Segment.tag body).source.getLast? = some '}' :=
    List.getLast?_eq_some_iff.2 ⟨'{' :: '{' :: body ++ ['}'], by simp [source]⟩
  rw [hlast]
  decide

/-- The pairs in a text that start outside the tags of its segments, each as all the text before it,
    where `before` is what comes before the text. -/
def pairsOutside (before cs : List Char) (ss : List Segment) : List (List Char) :=
  ((Text.bracePairs cs).map (before ++ ·)).filter fun place =>
    !(tags before ss).any (covers place.length)

/-- The pairs in a tag are no pairs outside tags. -/
theorem pairsOutside_tag (before body rest : List Char) (ss : List Segment) :
    pairsOutside before ((Segment.tag body).source ++ rest) (.tag body :: ss)
      = pairsOutside (before ++ (Segment.tag body).source) rest ss := by
  have hinside : ∀ place ∈ (Text.bracePairs (Segment.tag body).source).map (before ++ ·),
      covers place.length (before, body) = true := by
    intro place hplace
    obtain ⟨pair, hpair, rfl⟩ := List.mem_map.1 hplace
    simp [covers, Text.length_lt_of_mem_bracePairs hpair]
  have hafter : ∀ place ∈ (Text.bracePairs rest).map (before ++ (Segment.tag body).source ++ ·),
      covers place.length (before, body) = false := by
    intro place hplace
    obtain ⟨pair, -, rfl⟩ := List.mem_map.1 hplace
    simp [covers]
  rw [pairsOutside, Text.bracePairs_append (getLast?_source_tag body), List.map_append,
    List.filter_append, List.filter_eq_nil_iff.2, List.nil_append, List.map_map, pairsOutside]
  · simp only [Function.comp_def, ← List.append_assoc]
    refine List.filter_congr fun place hplace => ?_
    rw [tags, List.any_cons, hafter place hplace, Bool.false_or]
  · intro place hplace
    rw [tags, List.any_cons, hinside place hplace, Bool.true_or]
    decide

/-- All pairs in a text between tags are pairs outside tags. -/
theorem pairsOutside_text {gap rest : List Char} (h : rest = [] ∨ gap.getLast? ≠ some '{')
    (before : List Char) (ss : List Segment) :
    pairsOutside before (gap ++ rest) (.text gap :: ss)
      = (Text.bracePairs gap).map (before ++ ·) ++ pairsOutside (before ++ gap) rest ss := by
  have happend : Text.bracePairs (gap ++ rest)
      = Text.bracePairs gap ++ (Text.bracePairs rest).map (gap ++ ·) := by
    rcases h with rfl | h
    · simp [Text.bracePairs]
    · exact Text.bracePairs_append h rest
  have hgap : ∀ place ∈ (Text.bracePairs gap).map (before ++ ·),
      (tags (before ++ gap) ss).any (covers place.length) = false := by
    intro place hplace
    obtain ⟨pair, hpair, rfl⟩ := List.mem_map.1 hplace
    refine covers_tags_of_lt ?_
    have := Text.length_lt_of_mem_bracePairs hpair
    simpa using this
  rw [pairsOutside, happend, List.map_append, List.filter_append, List.filter_eq_self.2,
    List.map_map, pairsOutside, tags]
  · simp only [Function.comp_def, ← List.append_assoc]
  · intro place hplace
    rw [tags, hgap place hplace]
    rfl

/-- The check finds the line of each pair outside tags. -/
theorem strayDelimiters_eq {cs : List Char} {ss : List Segment} (h : Leftmost cs ss) :
    ∀ before : List Char, strayDelimiters (1 + before.count '\n') ss
      = (pairsOutside before cs ss).map fun place => 1 + place.count '\n' := by
  induction h with
  | nil => exact fun before => rfl
  | @tag body rest ss _ _ _ ih =>
      intro before
      have hcount : Piece.breaks body = (Segment.tag body).source.count '\n' := by
        simp [source, Piece.breaks]
      rw [pairsOutside_tag, ← ih, strayDelimiters, hcount, List.count_append, Nat.add_assoc]
  | @text gap rest ss _ hfirst hrest _ ih =>
      intro before
      rw [pairsOutside_text (hrest.imp_right (getLast?_ne_of_startsTag hfirst)), List.map_append,
        ← ih, strayDelimiters, openDelimiters_eq, List.map_map, List.count_append, Piece.breaks,
        Nat.add_assoc]
      simp only [Function.comp_def, List.count_append, Nat.add_assoc]

end Segment

/-! ## Pairs in the texts of a template -/

namespace Template

/-- The characters stand in a row in one of the texts of a template. -/
def Shows (nodes : Template) (cs : List Char) : Prop :=
  ∃ s, .text s ∈ walk nodes ∧ cs <:+: s.toList

theorem shows_append {a b : Template} {cs : List Char} :
    Shows (a ++ b) cs ↔ Shows a cs ∨ Shows b cs := by
  simp only [Shows, walk_append, List.mem_append, or_and_right, exists_or]

theorem shows_text {s : String} : Shows [.text s] s.toList :=
  ⟨s, by simp [walk, walkNode], List.infix_rfl⟩

/-- A text that is joined to another one is still there. -/
theorem shows_add {nodes : Template} {n : Node} {cs : List Char} (h : Shows (nodes ++ [n]) cs) :
    Shows (add nodes n) cs := by
  fun_induction Template.add nodes n with
  | case1 n => exact h
  | case2 s t =>
      obtain ⟨u, hu, hcs⟩ := h
      refine ⟨s ++ t, by simp [walk, walkNode], ?_⟩
      rw [String.toList_append]
      simp only [walk, walkNode, List.cons_append, List.nil_append, List.append_nil, List.mem_cons,
        Node.text.injEq, List.not_mem_nil, or_false] at hu
      rcases hu with rfl | rfl
      · exact hcs.trans (List.prefix_append _ _).isInfix
      · exact hcs.trans (List.suffix_append _ _).isInfix
  | case3 m ms n _ ih =>
      have hfront : Shows ([m] ++ (ms ++ [n])) cs := h
      exact (shows_append (a := [m])).2 ((shows_append.1 hfront).imp_right ih)

/-- The texts in the body of a block are texts of the template. -/
theorem shows_block {kind : BlockKind} {subject : String} {line : Nat} {body : Template}
    {cs : List Char} (h : Shows body cs) : Shows [.block kind subject line body] cs := by
  obtain ⟨s, hs, hcs⟩ := h
  exact ⟨s, by simp [walk, walkNode, hs], hcs⟩

end Template

namespace Progress

/-- The characters stand in a row in a text that has been read. -/
def Shows (p : Progress) (cs : List Char) : Prop :=
  Template.Shows p.nodes cs ∨ ∃ b ∈ p.pending, Template.Shows b.before cs

theorem Shows.add {p : Progress} {cs : List Char} (h : p.Shows cs) (n : Node) :
    (p.add n).Shows cs :=
  h.imp_left fun h => Template.shows_add (Template.shows_append.2 (Or.inl h))

/-- What has been read stays, and a text between tags stays in one piece. -/
theorem shows_stepStrict {p q : Progress} {piece : Piece} {cs : List Char}
    (hq : p.stepStrict piece = .ok q) (h : p.Shows cs ∨ piece = .text cs) : q.Shows cs := by
  rcases piece with ds | ⟨⟨kind, subject⟩ | kind | ⟨name, arguments⟩ | e, line⟩
  case text =>
    cases hq
    rcases h with h | h
    · exact h.add _
    · cases h
      refine Or.inl (Template.shows_add (Template.shows_append.2 (Or.inr ?_)))
      simpa using Template.shows_text (s := String.ofList cs)
  case tag.opening =>
    cases hq
    refine Or.inr ?_
    rcases h.resolve_right (by simp) with h | ⟨b, hb, h⟩
    · exact ⟨_, List.mem_cons_self, h⟩
    · exact ⟨b, List.mem_cons_of_mem _ hb, h⟩
  case tag.closing =>
    obtain ⟨_ | ⟨b, bs⟩, nodes⟩ := p
    · cases hq
    · simp only [stepStrict, closeStrict] at hq
      split at hq
      · cases hq
        rcases h.resolve_right (by simp) with hbody | ⟨c, hc, hbefore⟩
        · exact Or.inl (Template.shows_append.2 (Or.inr (Template.shows_block hbody)))
        · rcases List.mem_cons.1 hc with rfl | hc
          · exact Or.inl (Template.shows_append.2 (Or.inl hbefore))
          · exact Or.inr ⟨c, hc, hbefore⟩
      · split at hq <;> cases hq
  all_goals
    cases hq
    exact (h.resolve_right (by simp)).add _

theorem shows_foldlM {ps : List Piece} {cs : List Char} {p q : Progress}
    (hq : ps.foldlM stepStrict p = .ok q) : p.Shows cs ∨ .text cs ∈ ps → q.Shows cs := by
  refine foldlM_invariant (I := fun seen q => p.Shows cs ∨ .text cs ∈ seen → q.Shows cs)
    (fun seen mid piece q _ hmid hq h => ?_) (fun h => h.resolve_right List.not_mem_nil) hq
  rw [List.mem_append, List.mem_singleton, ← or_assoc] at h
  exact shows_stepStrict hq (h.imp hmid Eq.symm)

end Progress

theorem Piece.text_mem_ofSegments {cs : List Char} {ss : List Segment} (h : .text cs ∈ ss) :
    ∀ line, .text cs ∈ ofSegments line ss := by
  induction ss with
  | nil => cases h
  | cons s ss ih =>
      intro line
      rcases List.mem_cons.1 h with rfl | hss
      · exact List.mem_cons_self
      · cases s <;> exact List.mem_cons_of_mem _ (ih hss _)

/-- No text is taken out with the block tags. -/
theorem Piece.text_mem_keepTags {cs : List Char} {keep : Nat → Bool} {ps : List Piece}
    (h : .text cs ∈ ps) : ∀ i, .text cs ∈ keepTags keep i ps := by
  induction ps with
  | nil => cases h
  | cons p ps ih =>
      intro i
      rw [keepTags]
      rcases List.mem_cons.1 h with rfl | h
      · exact List.mem_cons_self
      · split
        · exact ih h _
        · exact List.mem_cons_of_mem _ (ih h _)

namespace Template

/-- Each text between two tags stands in one piece in the template, whatever tags are dropped. -/
theorem shows_parse {s : String} {cs : List Char} (h : .text cs ∈ Segment.scan s.toList) :
    Shows (parse s) cs := by
  have hpiece : .text cs ∈ Piece.matchedOnly (Piece.ofText s.toList) :=
    Piece.text_mem_keepTags (Piece.text_mem_ofSegments h 1) 0
  have hrun := ofPiecesStrict_eq_ok.1 (parse_matchedOnly s)
  rcases Progress.shows_foldlM hrun (Or.inr hpiece) with h | ⟨b, hb, -⟩
  · exact h
  · cases hb

/-- All texts of a template are without pairs if the check finds none. -/
theorem untagged_of_openDelimiterLines {s : String} (h : openDelimiterLines s = []) {text : String}
    (htext : .text text ∈ walk (parse s)) : Text.Untagged text.toList := by
  obtain ⟨front, last, hparse, hfront, hlast⟩ := allSealed_parse h
  rw [hparse, walk_append] at htext
  rcases List.mem_append.1 htext with htext | htext
  · exact (hfront text htext).1
  · rcases hlast with rfl | ⟨t, rfl, ht⟩
    · cases htext
    · simp only [walk, walkNode, List.append_nil, List.mem_singleton, Node.text.injEq] at htext
      rwa [htext]

end Template

theorem strayDelimiters_eq_nil {ss : List Segment}
    (h : ∀ cs, .text cs ∈ ss → Text.Untagged cs) : ∀ line, strayDelimiters line ss = [] := by
  induction ss with
  | nil => exact fun _ => rfl
  | cons s ss ih =>
      intro line
      have hrest := ih fun cs hcs => h cs (List.mem_cons_of_mem _ hcs)
      cases s with
      | text cs =>
          rw [strayDelimiters, hrest, openDelimiters_eq_nil_iff.2 (h cs List.mem_cons_self)]
          rfl
      | tag body => exact hrest _

namespace Template

/-- **The check for opening braces finds what is left of them in a template.** It finds a pair just
    if two opening braces stand in a row in a text of the template, wherever in the tree. It names,
    in the order of the text, each of the leftmost pairs, none of which overlap, that does not start
    inside one of the complete tags, with the line that it is on: one more than the line breaks before
    it. -/
theorem openDelimiterLines_eq (s : String) :
    let pairs := Text.bracePairs s.toList
    let outside := pairs.filter fun before =>
      !(Segment.tagsOf s.toList).any (Segment.covers before.length)
    (openDelimiterLines s = [] ↔
      ∀ text, .text text ∈ walk (parse s) → ¬ ['{', '{'] <:+: text.toList) ∧
    Text.LeftmostPairs s.toList pairs ∧
    Segment.Leftmost s.toList (Segment.scan s.toList) ∧
    (openDelimiterLines s).map (fun line => (Problem.openDelimiter line).message)
      = outside.map fun before =>
          "Line " ++ toString (1 + before.count '\n') ++
            ": '\x7b\x7b' is never closed by '\x7d\x7d'" := by
  intro pairs outside
  have hlines : openDelimiterLines s = outside.map fun before => 1 + before.count '\n' := by
    have hstray := Segment.strayDelimiters_eq (Segment.leftmost_scan s.toList) []
    simpa [Segment.pairsOutside, openDelimiterLines, Segment.tagsOf, outside, pairs] using hstray
  refine ⟨⟨fun h text htext => ?_, fun h => ?_⟩, Text.leftmostPairs_bracePairs _,
    Segment.leftmost_scan _, ?_⟩
  · exact Text.untagged_iff.1 (untagged_of_openDelimiterLines h htext)
  · refine strayDelimiters_eq_nil (fun cs hcs => ?_) 1
    obtain ⟨text, htext, hinfix⟩ := shows_parse hcs
    exact Text.untagged_iff.2 fun hpair => h text htext (hpair.trans hinfix)
  · rw [hlines, List.map_map]
    rfl

end Template

end Stencil
