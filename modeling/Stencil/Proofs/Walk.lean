import Mathlib.Data.List.Basic
import Stencil.Proofs.Balance
import Stencil.Proofs.Recovery
import Stencil.Proofs.Scan

set_option autoImplicit false

/-! # Nothing is lost

`walk_parse` compares the nodes of a template, in the order of `Template.walk`, with the text that it
was read from: the texts between the tags, the variables and components, the blocks, and the lines
of all of them.

The strict reading never takes back what it has read, so what it has seen grows piece by piece
(`seen_stepStrict`). The lenient reading is a strict one of fewer pieces, which lack block tags
only. -/

namespace Stencil

/-! ## What is compared -/

/-- The text between tags that a node is, empty for other nodes. -/
def Node.ownText : Node → List Char
  | .text s => s.toList
  | _ => []

/-- The node itself, if it is a variable or a component. -/
def Node.call? : Node → Option Node
  | .variable e line => some (.variable e line)
  | .component name arguments line => some (.component name arguments line)
  | _ => none

/-- The kind, the subject and the line of a block. -/
def Node.head? : Node → Option (BlockKind × String × Nat)
  | .block kind subject line _ => some (kind, subject, line)
  | _ => none

/-- The text between tags that a piece is, empty for tags. -/
def Piece.ownText : Piece → List Char
  | .text cs => cs
  | .tag _ _ => []

/-- The node for a variable or a component. -/
def Piece.call? : Piece → Option Node
  | .tag (.variable e) line => some (.variable (String.ofList e) line)
  | .tag (.component name arguments) line =>
    some (.component (String.ofList name) (String.ofList arguments) line)
  | _ => none

/-- The kind, the subject and the line of a block that a piece opens. -/
def Piece.head? : Piece → Option (BlockKind × String × Nat)
  | .tag (.opening kind subject) line => some (kind, String.ofList subject, line)
  | _ => none

/-! ## What the strict reading has seen -/

/-- What `g` sees in a node is what `h` sees in the piece that the node comes from; the body of a
    block is not looked at, and joined texts show what both show. -/
structure Sees {α : Type} (g : Node → List α) (h : Piece → List α) : Prop where
  ofJoined : ∀ s t, g (.text (s ++ t)) = g (.text s) ++ g (.text t)
  ofText : ∀ cs, g (.text (String.ofList cs)) = h (.text cs)
  ofVariable : ∀ e line, g (.variable (String.ofList e) line) = h (.tag (.variable e) line)
  ofComponent : ∀ name arguments line,
    g (.component (String.ofList name) (String.ofList arguments) line)
      = h (.tag (.component name arguments) line)
  ofBlock : ∀ kind subject line body,
    g (.block kind (String.ofList subject) line body) = h (.tag (.opening kind subject) line)
  ofClosing : ∀ kind line, h (.tag (.closing kind) line) = []

/-- What is seen in a template grows with each node that is added. -/
theorem Sees.walk_add {α : Type} {g : Node → List α} {h : Piece → List α} (hg : Sees g h)
    (nodes : Template) (n : Node) :
    (Template.walk (Template.add nodes n)).flatMap g
      = (Template.walk nodes).flatMap g ++ (Template.walkNode n).flatMap g := by
  fun_induction Template.add nodes n with
  | case1 n => simp [Template.walk]
  | case2 s t => simp [Template.walk, Template.walkNode, hg.ofJoined]
  | case3 m ms n _ ih => simp [Template.walk, ih]

namespace Progress

variable {α : Type} {g : Node → List α} {h : Piece → List α}

/-- What `g` sees in the nodes that have been read, those of the outer blocks first. -/
def seenIn (g : Node → List α) : List OpenBlock → Template → List α
  | [], nodes => (Template.walk nodes).flatMap g
  | b :: bs, nodes =>
    seenIn g bs b.before ++ g (.block b.kind b.subject b.line []) ++
      (Template.walk nodes).flatMap g

/-- What `g` has seen so far. -/
def seen (g : Node → List α) (p : Progress) : List α :=
  seenIn g p.pending p.nodes

theorem seenIn_add (hg : Sees g h) (bs : List OpenBlock) (nodes : Template) (n : Node) :
    seenIn g bs (Template.add nodes n)
      = seenIn g bs nodes ++ (Template.walkNode n).flatMap g := by
  cases bs with
  | nil => exact hg.walk_add nodes n
  | cons b bs => rw [seenIn, hg.walk_add, seenIn, ← List.append_assoc]

/-- Closing a block moves it into the body around it and hides nothing. -/
theorem seenIn_close (hg : Sees g h) (b : OpenBlock) (bs : List OpenBlock) (nodes : Template) :
    seenIn g bs (b.close nodes) = seenIn g (b :: bs) nodes := by
  have hhead (body : Template) : g (.block b.kind b.subject b.line body)
      = h (.tag (.opening b.kind b.subject.toList) b.line) := by
    have := hg.ofBlock b.kind b.subject.toList b.line body
    rwa [String.ofList_toList] at this
  rw [OpenBlock.close_eq_add, seenIn_add hg, Template.walkNode, List.flatMap_cons, seenIn, hhead,
    hhead, List.append_assoc]

theorem seen_add (hg : Sees g h) (p : Progress) (n : Node) :
    (p.add n).seen g = p.seen g ++ (Template.walkNode n).flatMap g :=
  seenIn_add hg p.pending p.nodes n

/-- Each piece adds what it shows. -/
theorem seen_stepStrict (hg : Sees g h) {p q : Progress} {piece : Piece}
    (hq : p.stepStrict piece = .ok q) : q.seen g = p.seen g ++ h piece := by
  rcases piece with cs | ⟨⟨kind, subject⟩ | kind | ⟨name, arguments⟩ | e, line⟩
  case text =>
    cases hq
    rw [← hg.ofText, step, seen_add hg]
    simp [Template.walkNode]
  case tag.component =>
    cases hq
    rw [← hg.ofComponent, step, seen_add hg]
    simp [Template.walkNode]
  case tag.variable =>
    cases hq
    rw [← hg.ofVariable, step, seen_add hg]
    simp [Template.walkNode]
  case tag.opening =>
    cases hq
    rw [← hg.ofBlock kind subject line []]
    simp [step, openBlock, seen, seenIn, Template.walk]
  case tag.closing =>
    obtain ⟨_ | ⟨b, bs⟩, nodes⟩ := p
    · cases hq
    · -- Only the tag that closes the innermost block lets the strict reading go on.
      simp only [stepStrict, closeStrict] at hq
      rw [hg.ofClosing, List.append_nil]
      split at hq
      · cases hq
        exact seenIn_close hg b bs nodes
      · split at hq <;> cases hq

end Progress

namespace Template

variable {α : Type} {g : Node → List α} {h : Piece → List α}

/-- A template that is read strictly shows what its pieces show. -/
theorem walk_of_ofPiecesStrict (hg : Sees g h) {ps : List Piece} {nodes : Template}
    (hn : ofPiecesStrict ps = .ok nodes) : (walk nodes).flatMap g = ps.flatMap h :=
  Progress.foldlM_eq_append (fun _ _ _ => Progress.seen_stepStrict hg) (ofPiecesStrict_eq_ok.1 hn)

/-- A template that is read leniently shows what its pieces show, without those that match
    nothing. -/
theorem walk_ofPieces (hg : Sees g h) (ps : List Piece) :
    (walk (ofPieces ps)).flatMap g = (Piece.matchedOnly ps).flatMap h :=
  walk_of_ofPiecesStrict hg (ofPiecesStrict_matchedOnly ps)

end Template

/-! ## Tags in their places -/

namespace Piece

theorem keepTags_sublist (keep : Nat → Bool) (ps : List Piece) :
    ∀ i, (keepTags keep i ps).Sublist ps := by
  induction ps with
  | nil => exact fun i => .slnil
  | cons p ps ih =>
      intro i
      rw [keepTags]
      split
      · exact (ih (i + 1)).cons p
      · exact (ih (i + 1)).cons_cons p

/-- Leaving out block tags hides nothing where block tags are not looked at. -/
theorem flatMap_keepTags {α : Type} {h : Piece → List α} (hb : ∀ p, p.isBlockTag = true → h p = [])
    (keep : Nat → Bool) (ps : List Piece) : ∀ i, (keepTags keep i ps).flatMap h = ps.flatMap h := by
  induction ps with
  | nil => exact fun i => rfl
  | cons p ps ih =>
      intro i
      rw [keepTags]
      split
      · have hp : h p = [] := hb p (by simp_all)
        rw [ih, List.flatMap_cons, hp, List.nil_append]
      · rw [List.flatMap_cons, List.flatMap_cons, ih]

end Piece

namespace Segment

/-- The text of a segment outside tags. -/
def outside : Segment → List Char
  | .text cs => cs
  | .tag _ => []

/-- The tags of a text, each as the text before it and its body. `before` is what comes before the
    first segment. -/
def tags (before : List Char) : List Segment → List (List Char × List Char)
  | [] => []
  | .text cs :: ss => tags (before ++ cs) ss
  | .tag body :: ss => (before, body) :: tags (before ++ (Segment.tag body).source) ss

/-- The tags of a text that is read from its start. -/
def tagsOf (cs : List Char) : List (List Char × List Char) :=
  tags [] (scan cs)

/-- The piece for a tag, with the line that the text before the tag ends in. -/
def pieceOf (t : List Char × List Char) : Piece :=
  .tag (Tag.read t.2) (1 + t.1.count '\n')

/-- The tags stand where they say. -/
theorem eq_append_of_mem_tags {ss : List Segment} : ∀ {before : List Char}
    {t : List Char × List Char}, t ∈ tags before ss →
      ∃ after, before ++ ss.flatMap source = t.1 ++ (Segment.tag t.2).source ++ after := by
  induction ss with
  | nil =>
      intro before t ht
      cases ht
  | cons s ss ih =>
      intro before t ht
      cases s with
      | text cs =>
          obtain ⟨after, h⟩ := ih ht
          exact ⟨after, by rw [← h]; simp [source]⟩
      | tag body =>
          rcases List.mem_cons.1 ht with rfl | ht
          · exact ⟨ss.flatMap source, by simp⟩
          · obtain ⟨after, h⟩ := ih ht
            exact ⟨after, by rw [← h]; simp⟩

end Segment

/-- The pieces of a template have their tags in the same order, each with the line that it is on. -/
theorem Piece.flatMap_ofSegments {α : Type} {h : Piece → List α} (hs : ∀ cs, h (.text cs) = [])
    (ss : List Segment) : ∀ before : List Char,
    (ofSegments (1 + before.count '\n') ss).flatMap h
      = (Segment.tags before ss).flatMap fun t => h (Segment.pieceOf t) := by
  induction ss with
  | nil => exact fun before => rfl
  | cons s ss ih =>
      intro before
      cases s with
      | text cs =>
          have := ih (before ++ cs)
          rw [List.count_append, ← Nat.add_assoc] at this
          rw [ofSegments, List.flatMap_cons, hs, List.nil_append, Segment.tags]
          exact this
      | tag body =>
          have := ih (before ++ (Segment.tag body).source)
          have hcount : ((Segment.tag body).source).count '\n' = breaks body := by
            simp [Segment.source, breaks]
          rw [List.count_append, ← Nat.add_assoc, hcount] at this
          rw [ofSegments, List.flatMap_cons, Segment.tags, List.flatMap_cons, this]
          rfl

theorem Piece.flatMap_ownText_ofSegments (ss : List Segment) :
    ∀ line, (ofSegments line ss).flatMap ownText = ss.flatMap Segment.outside := by
  induction ss with
  | nil => exact fun line => rfl
  | cons s ss ih =>
      intro line
      cases s with
      | text cs => rw [ofSegments, List.flatMap_cons, ih]; rfl
      | tag body => rw [ofSegments, List.flatMap_cons, ih]; rfl

/-! ## Nothing is lost -/

namespace Template

theorem sees_ownText : Sees Node.ownText Piece.ownText where
  ofJoined s t := by simp [Node.ownText]
  ofText cs := by simp [Node.ownText, Piece.ownText]
  ofVariable _ _ := rfl
  ofComponent _ _ _ := rfl
  ofBlock _ _ _ _ := rfl
  ofClosing _ _ := rfl

theorem sees_call? : Sees (fun n => n.call?.toList) (fun p => p.call?.toList) where
  ofJoined _ _ := rfl
  ofText _ := rfl
  ofVariable _ _ := rfl
  ofComponent _ _ _ := rfl
  ofBlock _ _ _ _ := rfl
  ofClosing _ _ := rfl

theorem sees_head? : Sees (fun n => n.head?.toList) (fun p => p.head?.toList) where
  ofJoined _ _ := rfl
  ofText _ := rfl
  ofVariable _ _ := rfl
  ofComponent _ _ _ := rfl
  ofBlock _ _ _ _ := rfl
  ofClosing _ _ := rfl

/-- **Nothing is lost, doubled or moved.** Of any text, the nodes of its template in the order of
    their tags have all the text outside the tags, a node for each variable and each component in the
    order of the text, and blocks for some of the tags that open one, again in their order. The line
    of a node is one more than the line breaks before its tag. The tags are the leftmost ones, and
    they stand where they are said to. -/
theorem walk_parse (s : String) :
    Segment.Leftmost s.toList (Segment.scan s.toList) ∧
    (∀ t ∈ Segment.tagsOf s.toList,
      ∃ after, s.toList = t.1 ++ (Segment.tag t.2).source ++ after) ∧
    (walk (parse s)).flatMap Node.ownText
      = (Segment.scan s.toList).flatMap Segment.outside ∧
    (walk (parse s)).filterMap Node.call?
      = (Segment.tagsOf s.toList).filterMap (fun t => (Segment.pieceOf t).call?) ∧
    ((walk (parse s)).filterMap Node.head?).Sublist
      ((Segment.tagsOf s.toList).filterMap fun t => (Segment.pieceOf t).head?) := by
  have hpieces : Piece.ofText s.toList = Piece.ofSegments 1 (Segment.scan s.toList) := rfl
  refine ⟨Segment.leftmost_scan _, fun t ht => ?_, ?_, ?_, ?_⟩
  · obtain ⟨after, h⟩ := Segment.eq_append_of_mem_tags ht
    rw [List.nil_append, Segment.scan_source] at h
    exact ⟨after, h⟩
  · have hblock : ∀ p : Piece, p.isBlockTag = true → p.ownText = [] := by
      rintro (cs | ⟨tag, line⟩) hp
      · cases hp
      · rfl
    rw [parse, walk_ofPieces sees_ownText, Piece.matchedOnly, Piece.flatMap_keepTags hblock,
      hpieces, Piece.flatMap_ownText_ofSegments]
  · have hblock : ∀ p : Piece, p.isBlockTag = true → p.call?.toList = [] := by
      rintro (cs | ⟨_ | _ | _ | _, line⟩) hp
      case tag.opening => rfl
      case tag.closing => rfl
      all_goals cases hp
    rw [List.filterMap_eq_flatMap_toList, List.filterMap_eq_flatMap_toList, parse,
      walk_ofPieces sees_call?, Piece.matchedOnly, Piece.flatMap_keepTags hblock, hpieces]
    exact Piece.flatMap_ofSegments (fun cs => rfl) (Segment.scan s.toList) []
  · have hkept : (Piece.matchedOnly (Piece.ofText s.toList)).Sublist (Piece.ofText s.toList) :=
      Piece.keepTags_sublist _ _ 0
    have htags : (Segment.tagsOf s.toList).filterMap (fun t => (Segment.pieceOf t).head?)
        = (Piece.ofText s.toList).filterMap Piece.head? := by
      rw [List.filterMap_eq_flatMap_toList, List.filterMap_eq_flatMap_toList]
      exact (Piece.flatMap_ofSegments (h := fun p => p.head?.toList) (fun cs => rfl)
        (Segment.scan s.toList) []).symm
    have hwalk : (walk (parse s)).filterMap Node.head?
        = (Piece.matchedOnly (Piece.ofText s.toList)).filterMap Piece.head? := by
      rw [List.filterMap_eq_flatMap_toList, List.filterMap_eq_flatMap_toList]
      exact walk_ofPieces sees_head? _
    rw [htags, hwalk]
    exact hkept.filterMap _

end Template

end Stencil
