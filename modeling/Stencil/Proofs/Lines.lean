import Stencil.Proofs.Balance

set_option autoImplicit false

/-! # Reading does not go by the lines

The lines of tags end up in the tree and in the words for a fault, but nothing is decided by them:
`Template.unlined` sets them all to zero, and this may as well be done before a text is read, for
lenient (`ofPieces_unlined`) and strict reading (`ofPiecesStrict_unlined`). -/

namespace Stencil

/-! ## Without lines -/

namespace Template

mutual

/-- A node as if everything stood on line zero. -/
def unlinedNode : Node → Node
  | .text s => .text s
  | .variable e _ => .variable e 0
  | .component name arguments _ => .component name arguments 0
  | .block kind subject _ body => .block kind subject 0 (unlined body)

/-- A template as if everything stood on line zero. -/
def unlined : List Node → List Node
  | [] => []
  | n :: ns => unlinedNode n :: unlined ns

end

theorem unlined_append (a b : Template) : unlined (a ++ b) = unlined a ++ unlined b := by
  induction a with
  | nil => rfl
  | cons n a ih => rw [List.cons_append, unlined, ih, unlined, List.cons_append]

theorem unlined_add (nodes : Template) (n : Node) :
    unlined (add nodes n) = add (unlined nodes) (unlinedNode n) := by
  induction nodes with
  | nil => rfl
  | cons m ms ih =>
      by_cases hms : ms = []
      · subst hms
        cases m <;> cases n <;> rfl
      · have hne : unlined ms ≠ [] := by
          cases ms with
          | nil => exact absurd rfl hms
          | cons m ms => exact List.cons_ne_nil _ _
        rw [add_cons hms, unlined, ih, unlined, add_cons hne]

theorem unlined_join (others : Template) : ∀ nodes : Template,
    unlined (join nodes others) = join (unlined nodes) (unlined others) := by
  induction others with
  | nil => exact fun nodes => rfl
  | cons n ns ih =>
      intro nodes
      have hjoin : join nodes (n :: ns) = join (add nodes n) ns := rfl
      rw [hjoin, ih, unlined_add]
      rfl

end Template

/-- A piece as if it stood on line zero. -/
def Piece.unlined : Piece → Piece
  | .text cs => .text cs
  | .tag t _ => .tag t 0

/-- An open block as if everything stood on line zero. -/
def OpenBlock.unlined (b : OpenBlock) : OpenBlock :=
  ⟨b.kind, b.subject, 0, Template.unlined b.before⟩

theorem OpenBlock.kind_unlined (b : OpenBlock) : b.unlined.kind = b.kind := rfl

theorem OpenBlock.unlined_close (b : OpenBlock) (body : Template) :
    Template.unlined (b.close body) = b.unlined.close (Template.unlined body) := by
  rw [close, Template.unlined_append]
  rfl

theorem OpenBlock.unlined_dissolve (b : OpenBlock) (body : Template) :
    Template.unlined (b.dissolve body) = b.unlined.dissolve (Template.unlined body) :=
  Template.unlined_join body b.before

/-! ## Reading without lines -/

namespace Progress

/-- The progress as if everything stood on line zero. -/
def unlined (p : Progress) : Progress :=
  ⟨p.pending.map OpenBlock.unlined, Template.unlined p.nodes⟩

theorem unlined_add (p : Progress) (n : Node) :
    (p.add n).unlined = p.unlined.add (Template.unlinedNode n) := by
  rw [add, unlined, Template.unlined_add]
  rfl

theorem closeKind?_unlined (kind : BlockKind) (bs : List OpenBlock) : ∀ nodes : Template,
    closeKind? kind (bs.map OpenBlock.unlined) (Template.unlined nodes)
      = (closeKind? kind bs nodes).map unlined := by
  induction bs with
  | nil => exact fun nodes => rfl
  | cons b bs ih =>
      intro nodes
      rw [List.map_cons, closeKind?, closeKind?, OpenBlock.kind_unlined]
      by_cases hkind : b.kind = kind
      · rw [if_pos hkind, if_pos hkind, ← b.unlined_close]
        rfl
      · rw [if_neg hkind, if_neg hkind, ← b.unlined_dissolve, ih]

/-- A lenient step does not go by the lines. -/
theorem step_unlined (p : Progress) (piece : Piece) :
    p.unlined.step piece.unlined = (p.step piece).unlined := by
  rcases piece with cs | ⟨⟨kind, subject⟩ | kind | ⟨name, arguments⟩ | e, line⟩
  case text => exact (p.unlined_add (.text _)).symm
  case tag.component => exact (p.unlined_add (.component _ _ line)).symm
  case tag.variable => exact (p.unlined_add (.variable _ line)).symm
  case tag.opening => rfl
  case tag.closing =>
    have hclose := closeKind?_unlined kind p.pending p.nodes
    change (closeKind? kind (p.pending.map OpenBlock.unlined) (Template.unlined p.nodes)).getD _ = _
    rw [hclose, Option.getD_map]
    rfl

theorem finish_unlined (bs : List OpenBlock) : ∀ nodes : Template,
    finish (unlined ⟨bs, nodes⟩) = Template.unlined (finish ⟨bs, nodes⟩) := by
  induction bs with
  | nil => exact fun nodes => rfl
  | cons b bs ih =>
      intro nodes
      have h := ih (b.dissolve nodes)
      rw [unlined, b.unlined_dissolve] at h
      exact h

theorem toOption_stepStrict_unlined (p : Progress) (piece : Piece) :
    (p.unlined.stepStrict piece.unlined).toOption
      = (p.stepStrict piece).toOption.map unlined := by
  rcases piece with cs | ⟨⟨kind, subject⟩ | kind | ⟨name, arguments⟩ | e, line⟩
  case text => exact congrArg some (p.step_unlined (.text cs))
  case tag.component => exact congrArg some (p.step_unlined (.tag (.component name arguments) line))
  case tag.variable => exact congrArg some (p.step_unlined (.tag (.variable e) line))
  case tag.opening => rfl
  case tag.closing =>
    obtain ⟨_ | ⟨b, bs⟩, nodes⟩ := p
    · rfl
    · simp only [unlined, Piece.unlined, stepStrict, closeStrict, List.map_cons,
        OpenBlock.kind_unlined]
      split
      · exact congrArg (fun ns => some (Progress.mk _ ns)) (b.unlined_close nodes).symm
      · split <;> split <;> rfl

/-- A step does not go by the lines. -/
theorem stepStrict_unlined {p u : Progress} {piece : Piece} :
    p.unlined.stepStrict piece.unlined = .ok u ↔
      ∃ q, p.stepStrict piece = .ok q ∧ u = q.unlined := by
  have h := p.toOption_stepStrict_unlined piece
  cases hu : p.unlined.stepStrict piece.unlined <;> cases hq : p.stepStrict piece <;>
    rw [hu, hq] at h
  · exact ⟨nofun, fun ⟨q, hq, _⟩ => nomatch hq⟩
  · cases h
  · cases h
  · cases h
    constructor
    · rintro ⟨⟩
      exact ⟨_, rfl, rfl⟩
    · rintro ⟨q, ⟨⟩, rfl⟩
      rfl

theorem foldlM_unlined {ps : List Piece} : ∀ {p u : Progress},
    (ps.map Piece.unlined).foldlM stepStrict p.unlined = .ok u ↔
      ∃ q, ps.foldlM stepStrict p = .ok q ∧ u = q.unlined := by
  induction ps with
  | nil =>
      intro p u
      exact ⟨fun h => ⟨p, rfl, (Except.ok.inj h).symm⟩, fun ⟨q, hq, hu⟩ => by cases hq; rw [hu]; rfl⟩
  | cons piece ps ih =>
      intro p u
      rw [List.map_cons, List.foldlM_cons, List.foldlM_cons, bind_eq_ok]
      constructor
      · rintro ⟨mid, hmid, h⟩
        obtain ⟨q, hq, rfl⟩ := stepStrict_unlined.1 hmid
        obtain ⟨r, hr, rfl⟩ := ih.1 h
        exact ⟨r, bind_eq_ok.2 ⟨q, hq, hr⟩, rfl⟩
      · rintro ⟨r, h, rfl⟩
        obtain ⟨q, hq, hr⟩ := bind_eq_ok.1 h
        exact ⟨q.unlined, stepStrict_unlined.2 ⟨q, hq, rfl⟩, ih.2 ⟨r, hr, rfl⟩⟩

end Progress

namespace Template

/-- Reading leniently does not go by the lines. -/
theorem ofPieces_unlined (ps : List Piece) :
    ofPieces (ps.map Piece.unlined) = unlined (ofPieces ps) := by
  have hrun : ∀ p : Progress, (ps.map Piece.unlined).foldl Progress.step p.unlined
      = (ps.foldl Progress.step p).unlined := by
    induction ps with
    | nil => exact fun p => rfl
    | cons piece ps ih =>
        intro p
        rw [List.map_cons, List.foldl_cons, List.foldl_cons, p.step_unlined, ih]
  rw [ofPieces, ofPieces, ← Progress.finish_unlined, ← hrun]
  rfl

/-- Reading strictly does not go by the lines. -/
theorem ofPiecesStrict_unlined {ps : List Piece} {ns : Template} :
    ofPiecesStrict (ps.map Piece.unlined) = .ok ns ↔
      ∃ nodes, ofPiecesStrict ps = .ok nodes ∧ ns = unlined nodes := by
  have hstart : Progress.unlined .start = .start := rfl
  rw [ofPiecesStrict_eq_ok, ← hstart, Progress.foldlM_unlined]
  constructor
  · rintro ⟨⟨_ | ⟨b, bs⟩, nodes⟩, hq, hu⟩
    · cases hu
      exact ⟨nodes, ofPiecesStrict_eq_ok.2 hq, rfl⟩
    · cases hu
  · rintro ⟨nodes, hq, rfl⟩
    exact ⟨_, ofPiecesStrict_eq_ok.1 hq, rfl⟩

end Template

end Stencil
