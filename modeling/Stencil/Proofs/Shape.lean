import Mathlib.Data.List.Chain
import Stencil.Proofs.Course
import Stencil.Proofs.Spelling

set_option autoImplicit false

/-! # The shape of a template

The tree of a text has its texts in one piece: no text is empty, and at no level do two of them
stand next to each other, although unmatched tags may have been taken out between them. What a node
has from its tag is trimmed and free of closing braces (`shape_parse`), so that an expression with
blanks in it always begins with a name.

Both are found on the strict reading, which the lenient one is of fewer pieces: joining a node to
others keeps texts apart (`Tidy.add`), and closing a block joins one node. -/

namespace Stencil

/-! ## Levels of a tree -/

/-- The body of a node, if it is a block. -/
def Node.body? : Node → Option Template
  | .block _ _ _ body => some body
  | _ => none

namespace Template

/-- What joining a node does: it becomes the last node, unless it and the last one are texts. -/
theorem add_cases (nodes : Template) (n : Node) :
    (add nodes n = nodes ++ [n] ∧ ∀ m ∈ nodes.getLast?, m.text? = none ∨ n.text? = none) ∨
    ∃ front s t, nodes = front ++ [.text s] ∧ n = .text t ∧
      add nodes n = front ++ [.text (s ++ t)] := by
  fun_induction add nodes n with
  | case1 n => exact Or.inl ⟨rfl, fun m hm => by cases hm⟩
  | case2 s t => exact Or.inr ⟨[], s, t, rfl, rfl, rfl⟩
  | case3 m ms n hne ih =>
      rcases ih with ⟨hadd, hlast⟩ | ⟨front, s, t, rfl, rfl, hadd⟩
      · refine Or.inl ⟨by rw [hadd, List.cons_append], fun k hk => ?_⟩
        rcases ms with _ | ⟨m', ms⟩
        · obtain rfl : m = k := by simpa using hk
          cases m with
          | text s =>
              cases n with
              | text t => exact absurd rfl (hne s t rfl rfl)
              | _ => exact Or.inr rfl
          | _ => exact Or.inl rfl
        · exact hlast k (by rwa [List.getLast?_cons_cons] at hk)
      · exact Or.inr ⟨m :: front, s, t, rfl, rfl, by rw [hadd, List.cons_append]⟩

/-- No text is empty, and none stands next to another one. -/
structure Separated (nodes : Template) : Prop where
  nonempty : ∀ s, .text s ∈ nodes → s ≠ ""
  apart : nodes.IsChain fun m n => m.text? = none ∨ n.text? = none

/-- The bodies of all blocks in a template. -/
def bodies (nodes : Template) : List Template :=
  (walk nodes).filterMap Node.body?

/-- The lists of nodes in a tree: the template itself and the bodies of all blocks in it. -/
def levels (nodes : Template) : List Template :=
  nodes :: bodies nodes

/-- The texts are separated at every level. -/
def Tidy (nodes : Template) : Prop :=
  ∀ level ∈ levels nodes, Separated level

theorem bodies_append (a b : Template) : bodies (a ++ b) = bodies a ++ bodies b := by
  rw [bodies, walk_append, List.filterMap_append]
  rfl

theorem bodies_block (kind : BlockKind) (subject : String) (line : Nat) (body : Template) :
    bodies [.block kind subject line body] = levels body := by
  simp [bodies, levels, walk, walkNode, Node.body?]

theorem bodies_text (s : String) : bodies [.text s] = [] := rfl

theorem separated_nil : Separated [] := ⟨nofun, List.isChain_nil⟩

theorem separated_singleton {n : Node} (h : ∀ s, n = .text s → s ≠ "") : Separated [n] :=
  ⟨fun s hs => h s (List.mem_singleton.1 hs).symm, List.isChain_singleton n⟩

theorem Separated.add {nodes : Template} {n : Node} (h : Separated nodes) (hn : Separated [n]) :
    Separated (add nodes n) := by
  rcases add_cases nodes n with ⟨hadd, hlast⟩ | ⟨front, s, t, rfl, rfl, hadd⟩
  · rw [hadd]
    refine ⟨fun s hs => ?_, List.isChain_append.2 ⟨h.apart, hn.apart, ?_⟩⟩
    · exact (List.mem_append.1 hs).elim (h.nonempty s) (hn.nonempty s)
    · intro m hm k hk
      cases hk
      exact hlast m hm
  · rw [hadd]
    obtain ⟨hfront, -, hseam⟩ := List.isChain_append.1 h.apart
    refine ⟨fun u hu => ?_, List.isChain_append.2 ⟨hfront, List.isChain_singleton _, ?_⟩⟩
    · rcases List.mem_append.1 hu with hu | hu
      · exact h.nonempty u (List.mem_append_left _ hu)
      · obtain rfl : u = s ++ t := by simpa using hu
        have hs : s ≠ "" := h.nonempty s (by simp)
        simp [hs]
    · intro m hm k hk
      cases hk
      exact (hseam m hm (.text s) rfl).imp_right nofun

theorem tidy_iff {nodes : Template} :
    Tidy nodes ↔ Separated nodes ∧ ∀ level ∈ bodies nodes, Separated level :=
  List.forall_mem_cons

theorem tidy_nil : Tidy [] :=
  tidy_iff.2 ⟨separated_nil, nofun⟩

/-- Joining a node brings in its levels and no others. -/
theorem Tidy.add {nodes : Template} {n : Node} (h : Tidy nodes) (hn : Tidy [n]) :
    Tidy (add nodes n) := by
  rw [tidy_iff] at h hn ⊢
  refine ⟨h.1.add hn.1, fun level hlevel => ?_⟩
  have hmem : level ∈ bodies nodes ++ bodies [n] := by
    rw [← bodies_append]
    rcases add_cases nodes n with ⟨hadd, -⟩ | ⟨front, s, t, rfl, rfl, hadd⟩
    · rwa [hadd] at hlevel
    · rw [hadd, bodies_append, bodies_text] at hlevel
      rwa [bodies_append, bodies_append, bodies_text, bodies_text, List.append_assoc]
  exact (List.mem_append.1 hmem).elim (h.2 level) (hn.2 level)

theorem Tidy.block {body : Template} (h : Tidy body) (kind : BlockKind) (subject : String)
    (line : Nat) : Tidy [.block kind subject line body] := by
  refine tidy_iff.2 ⟨separated_singleton nofun, ?_⟩
  rw [bodies_block]
  exact h

/-- A node without a body is a level of its own. -/
theorem tidy_singleton {n : Node} (hbody : bodies [n] = []) (h : ∀ s, n = .text s → s ≠ "") :
    Tidy [n] := by
  refine tidy_iff.2 ⟨separated_singleton h, ?_⟩
  rw [hbody]
  exact nofun

end Template

/-! ## Reading keeps texts apart -/

namespace Progress

/-- The texts that have been read are separated. -/
structure Tidy (p : Progress) : Prop where
  pending : ∀ b ∈ p.pending, Template.Tidy b.before
  nodes : Template.Tidy p.nodes

theorem tidy_start : start.Tidy := ⟨nofun, Template.tidy_nil⟩

theorem Tidy.add {p : Progress} (h : p.Tidy) {n : Node} (hn : Template.Tidy [n]) :
    (p.add n).Tidy :=
  ⟨h.pending, h.nodes.add hn⟩

theorem Tidy.stepStrict {p q : Progress} (h : p.Tidy) {piece : Piece}
    (hpiece : ∀ cs, piece = .text cs → cs ≠ []) (hq : p.stepStrict piece = .ok q) : q.Tidy := by
  rcases piece with cs | ⟨⟨kind, subject⟩ | kind | ⟨name, arguments⟩ | e, line⟩
  case text =>
    cases hq
    refine h.add (Template.tidy_singleton rfl fun s hs => ?_)
    cases hs
    simpa using hpiece cs rfl
  case tag.opening =>
    cases hq
    exact ⟨List.forall_mem_cons.2 ⟨h.nodes, h.pending⟩, Template.tidy_nil⟩
  case tag.closing =>
    obtain ⟨_ | ⟨b, bs⟩, nodes⟩ := p
    · cases hq
    · simp only [Progress.stepStrict, closeStrict] at hq
      split at hq
      · cases hq
        obtain ⟨hbefore, hpending⟩ := List.forall_mem_cons.1 h.pending
        refine ⟨hpending, ?_⟩
        rw [OpenBlock.close_eq_add]
        exact hbefore.add (h.nodes.block b.kind b.subject b.line)
      · split at hq <;> cases hq
  all_goals
    cases hq
    exact h.add (Template.tidy_singleton rfl fun s hs => by cases hs)

end Progress

/-- The texts of a template are separated if none of its pieces is an empty text. -/
theorem Template.tidy_of_ofPiecesStrict {ps : List Piece} {nodes : Template}
    (hps : ∀ p ∈ ps, ∀ cs, p = .text cs → cs ≠ []) (h : ofPiecesStrict ps = .ok nodes) :
    Tidy nodes := by
  have hrun := foldlM_invariant (I := fun _ p => p.Tidy)
    (fun _ _ piece _ hpiece hp => hp.stepStrict (hps piece hpiece)) Progress.tidy_start
    (ofPiecesStrict_eq_ok.1 h)
  exact hrun.nodes

/-! ## What a tag has -/

/-- No blanks at the ends, and no closing brace. -/
structure Text.Neat (cs : List Char) : Prop where
  head : ∀ c ∈ cs.head?, isBlank c = false
  last : ∀ c ∈ cs.getLast?, isBlank c = false
  closed : '}' ∉ cs

/-- The parts of a tag are neat, and what a block or a component has to have is not empty. -/
def Tag.Neat : Tag → Prop
  | .opening _ subject => subject ≠ [] ∧ Text.Neat subject
  | .closing _ => True
  | .component name arguments =>
    (name ≠ [] ∧ ∀ c ∈ name, Text.isWord c = true) ∧ Text.Neat arguments
  | .variable e => Text.Neat e

/-- A piece that is a text is not empty, and one that is a tag is neat. -/
def Piece.Neat : Piece → Prop
  | .text cs => cs ≠ []
  | .tag t _ => t.Neat

theorem Text.neat_of_trim {cs : List Char} (htrim : trim cs = cs) (hclosed : '}' ∉ cs) : Neat cs :=
  ⟨(trim_eq_self_iff.1 htrim).1, (trim_eq_self_iff.1 htrim).2, hclosed⟩

theorem Text.Neat.trim_eq {cs : List Char} (h : Neat cs) : trim cs = cs :=
  trim_eq_self_iff.2 ⟨h.head, h.last⟩

/-- What is read from a body has no closing brace if the body has none. -/
theorem Tag.neat_read {body : List Char} (hbody : '}' ∉ body) : (read body).Neat := by
  obtain ⟨hproper, hspells⟩ := read_eq_iff.1 (rfl : read body = read body)
  have hwritten : '}' ∉ (read body).written := by
    rwa [← hspells.mem_iff rfl]
  generalize read body = tag at hproper hwritten
  rcases tag with ⟨kind, subject⟩ | kind | ⟨name, arguments⟩ | e
  · obtain ⟨hne, htrim⟩ := hproper
    exact ⟨hne, Text.neat_of_trim htrim fun h => hwritten (by simp [written, h])⟩
  · trivial
  · obtain ⟨hne, hword, htrim⟩ := hproper
    exact ⟨⟨hne, hword⟩, Text.neat_of_trim htrim fun h => hwritten (by simp [written, h])⟩
  · exact Text.neat_of_trim hproper.2 hwritten

theorem Piece.neat_ofSegments {cs : List Char} {ss : List Segment} (h : Segment.Leftmost cs ss) :
    ∀ line, ∀ p ∈ ofSegments line ss, p.Neat := by
  induction h with
  | nil => exact fun _ => nofun
  | tag _ hbody _ ih => exact fun line => List.forall_mem_cons.2 ⟨Tag.neat_read hbody, ih _⟩
  | text hne _ _ _ ih => exact fun line => List.forall_mem_cons.2 ⟨hne, ih _⟩

/-- The tag that a node comes from. -/
def Node.tag? : Node → Option Tag
  | .text _ => none
  | .variable e _ => some (.variable e.toList)
  | .component name arguments _ => some (.component name.toList arguments.toList)
  | .block kind subject _ _ => some (.opening kind subject.toList)

/-- The tag of a piece, if a node comes from it. -/
def Piece.nodeTag? : Piece → Option Tag
  | .text _ => none
  | .tag (.closing _) _ => none
  | .tag t _ => some t

namespace Template

theorem sees_tag? : Sees (fun n => n.tag?.toList) (fun p => p.nodeTag?.toList) where
  ofJoined _ _ := rfl
  ofText _ := rfl
  ofVariable e line := by simp [Node.tag?, Piece.nodeTag?]
  ofComponent name arguments line := by simp [Node.tag?, Piece.nodeTag?]
  ofBlock kind subject line body := by simp [Node.tag?, Piece.nodeTag?]
  ofClosing _ _ := rfl

/-- The tags of the nodes are among those of the pieces. -/
theorem neat_of_ofPiecesStrict {ps : List Piece} {nodes : Template} (hps : ∀ p ∈ ps, p.Neat)
    (h : ofPiecesStrict ps = .ok nodes) : ∀ n ∈ walk nodes, ∀ t ∈ n.tag?, t.Neat := by
  intro n hn t ht
  have hmem : t ∈ (walk nodes).flatMap fun n => n.tag?.toList :=
    List.mem_flatMap.2 ⟨n, hn, Option.mem_toList.2 ht⟩
  rw [walk_of_ofPiecesStrict sees_tag? h] at hmem
  obtain ⟨p, hp, htp⟩ := List.mem_flatMap.1 hmem
  have hneat := hps p hp
  -- Texts and closing tags are the tags of no nodes.
  rcases p with cs | ⟨_ | _ | _ | _, line⟩
  all_goals cases Option.mem_toList.1 htp
  all_goals exact hneat

end Template

/-! ## Calls -/

/-- A trimmed expression with blanks in it begins with the name of a helper. -/
theorem Expression.exists_tokens {e : List Char} (htrim : Text.trim e = e)
    (hblank : ∃ c ∈ e, Text.isBlank c = true) :
    ∃ helper arguments, tokens e = helper :: arguments ∧ read e = .call helper arguments := by
  have hany : e.any Text.isBlank = true := List.any_eq_true.2 hblank
  cases htokens : tokens e with
  | nil =>
      have hread : read (Text.trim e) = .blank := by rw [htrim, read, if_pos hany, htokens]
      exact absurd hread (read_trim_ne_blank e)
  | cons helper arguments =>
      exact ⟨helper, arguments, rfl, by rw [read, if_pos hany, htokens]⟩

theorem Node.trim_of_expression? {n : Node} (h : ∀ t ∈ n.tag?, t.Neat) {e : List Char}
    (he : e ∈ n.expression?) : Text.trim e = e := by
  rcases n with s | ⟨e', line⟩ | ⟨name, arguments, line⟩ | ⟨_ | _, subject, line, body⟩
  · cases he
  · cases he
    exact (h _ rfl).trim_eq
  · cases he
  · cases he
    exact (h _ rfl).2.trim_eq
  · cases he

/-! ## The tree of a text -/

namespace Template

/-- The pieces of a text that match are neat. -/
theorem neat_of_mem_matchedOnly {cs : List Char} :
    ∀ p ∈ Piece.matchedOnly (Piece.ofText cs), p.Neat := fun p hp =>
  Piece.neat_ofSegments (Segment.leftmost_scan cs) 1 p ((Piece.keepTags_sublist _ _ 0).subset hp)

/-- **The shape of a template.** At every level of the tree that is read from a text, strictly or
    not, no text is empty or next to another one. What a node has from its tag has no blanks at its
    ends and no closing brace, the subject of a block is not empty, and the name of a component is a
    word. So every expression has a value, and one with blanks in it calls the helper that its first
    token names. -/
theorem shape_parse [Attributes] (s : String) (nodes : Template)
    (h : nodes = parse s ∨ parseStrict s = .ok nodes) :
    (∀ level ∈ levels nodes, Separated level) ∧
    (∀ n ∈ walk nodes, ∀ t ∈ n.tag?, t.Neat) ∧
    ∀ n ∈ walk nodes, ∀ e ∈ n.expression?,
      (∀ (f : Functions) (scope : Scope), ∃ v, (f.evaluate scope e).outcome = .ok v) ∧
      ((∃ c ∈ e, Text.isBlank c = true) →
        ∃ helper arguments, Expression.tokens e = helper :: arguments ∧
          Expression.read e = .call helper arguments) := by
  obtain rfl : nodes = parse s := h.elim id ofPieces_of_ofPiecesStrict
  have hstrict := ofPiecesStrict_matchedOnly (Piece.ofText s.toList)
  have hneat : ∀ n ∈ walk (parse s), ∀ t ∈ n.tag?, t.Neat :=
    neat_of_ofPiecesStrict neat_of_mem_matchedOnly hstrict
  refine ⟨?_, hneat, fun n hn e he => ⟨fun f scope => ?_, ?_⟩⟩
  · refine tidy_of_ofPiecesStrict (fun p hp cs hcs => ?_) hstrict
    have htext := neat_of_mem_matchedOnly p hp
    rwa [hcs] at htext
  · exact ⟨_, Functions.evaluate_outcome (readable_parse s n hn e he)⟩
  · exact Expression.exists_tokens (Node.trim_of_expression? (hneat n hn) he)

/-- Texts around a closing tag without a block are one, and so is the body of a block that is never
    closed with what comes before it. -/
theorem shape_parse_dissolved :
    let nodes := parse <|
      "a\x7b\x7b/if\x7d\x7db\x7b\x7b#if y\x7d\x7dc\x7b\x7beq x 1\x7d\x7d\x7b\x7b/each\x7d\x7dd"
    nodes.map Node.text? = [some "abc", none, some "d"] ∧ Separated nodes ∧
    (walk nodes).filterMap Node.expression? = ["eq x 1".toList] ∧
    ∃ helper arguments, Expression.tokens "eq x 1".toList = helper :: arguments ∧
      Expression.read "eq x 1".toList = .call helper arguments := by
  intro nodes
  obtain ⟨hlevels, -, hexpressions⟩ := shape_parse _ nodes (Or.inl rfl)
  have hexpression : (walk nodes).filterMap Node.expression? = ["eq x 1".toList] := by
    decide +kernel
  obtain ⟨n, hn, he⟩ := List.mem_filterMap.1 (hexpression ▸ List.mem_singleton_self _)
  have hcall := (hexpressions n hn _ he).2 ⟨' ', by decide, by decide⟩
  exact ⟨by decide +kernel, hlevels nodes List.mem_cons_self, hexpression, hcall⟩

end Template

end Stencil
