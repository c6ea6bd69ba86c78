import Mathlib.Data.List.TakeWhile
import Stencil.Template.Blocks

set_option autoImplicit false

/-! # Dropping the tags that match nothing

`Template.parse` never fails: it drops the tags of blocks that are not closed and the closing tags
that close nothing. Which tags these are is a matter of the tags alone. `Piece.pairs` finds the tags
that belong together, and `parse_matchedOnly` says that without all others the strict reading
succeeds and gives the same template.

The strict reading knows the unmatched tags beforehand, while `parse` finds out late and dissolves
the blocks then. The proof follows both and relates them by `Progress.settle`, which dissolves
those of the open blocks ahead of time that no later tag closes. -/

namespace Stencil

/-! ## Tags that belong together -/

namespace Piece

/-- Whether a piece opens or closes a block. -/
def isBlockTag : Piece → Bool
  | .tag (.opening _ _) _ => true
  | .tag (.closing _) _ => true
  | _ => false

/-- The tags that belong together, each pair as the places of the opening and of the closing tag.
    `opened` holds the open blocks, innermost first, with the places of their tags, and the first
    piece has place `i`. A closing tag belongs to the innermost open block of its kind, and the
    blocks that were opened in that one stay unmatched. -/
def pairs (opened : List (BlockKind × Nat)) (i : Nat) : List Piece → List (Nat × Nat)
  | [] => []
  | .tag (.opening kind _) _ :: ps => pairs ((kind, i) :: opened) (i + 1) ps
  | .tag (.closing kind) _ :: ps =>
    match opened.dropWhile (·.1 ≠ kind) with
    | [] => pairs opened (i + 1) ps
    | (_, j) :: outer => (j, i) :: pairs outer (i + 1) ps
  | _ :: ps => pairs opened (i + 1) ps

example :
    pairs [] 0 [.tag (.opening .conditional ['a']) 1, .tag (.opening .loop ['b']) 1,
      .tag (.closing .conditional) 1, .tag (.closing .loop) 1] = [(0, 2)] := rfl

/-- The places of all tags that belong to another one. -/
def matchedPlaces (opened : List (BlockKind × Nat)) (i : Nat) (ps : List Piece) : List Nat :=
  (pairs opened i ps).flatMap fun p => [p.1, p.2]

/-- The pieces without the block tags whose places are not kept, where the first piece has place
    `i`. -/
def keepTags (keep : Nat → Bool) (i : Nat) : List Piece → List Piece
  | [] => []
  | p :: ps =>
    if p.isBlockTag && !keep i then keepTags keep (i + 1) ps else p :: keepTags keep (i + 1) ps

theorem keepTags_cons_of_kept {keep : Nat → Bool} {i : Nat} {p : Piece}
    (h : p.isBlockTag = false ∨ keep i = true) (ps : List Piece) :
    keepTags keep i (p :: ps) = p :: keepTags keep (i + 1) ps := by
  rw [keepTags, if_neg]
  rcases h with h | h <;> simp [h]

theorem keepTags_cons_of_dropped {keep : Nat → Bool} {i : Nat} {p : Piece}
    (hp : p.isBlockTag = true) (hi : keep i = false) (ps : List Piece) :
    keepTags keep i (p :: ps) = keepTags keep (i + 1) ps := by
  rw [keepTags, if_pos]
  simp [hp, hi]

/-- The pieces without the tags that match nothing. -/
def matchedOnly (ps : List Piece) : List Piece :=
  keepTags (fun i => (matchedPlaces [] 0 ps).contains i) 0 ps

theorem matchedPlaces_opening (opened : List (BlockKind × Nat)) (i : Nat) (kind : BlockKind)
    (subject : List Char) (line : Nat) (ps : List Piece) :
    matchedPlaces opened i (.tag (.opening kind subject) line :: ps)
      = matchedPlaces ((kind, i) :: opened) (i + 1) ps := rfl

theorem matchedPlaces_closing_of_all {opened : List (BlockKind × Nat)} {kind : BlockKind}
    (h : ∀ b ∈ opened, b.1 ≠ kind) (i line : Nat) (ps : List Piece) :
    matchedPlaces opened i (.tag (.closing kind) line :: ps) = matchedPlaces opened (i + 1) ps := by
  have hd : opened.dropWhile (·.1 ≠ kind) = [] :=
    List.dropWhile_eq_nil_iff.2 fun b hb => by simpa using h b hb
  simp only [matchedPlaces, pairs, hd]

theorem matchedPlaces_closing_of_append {inner : List (BlockKind × Nat)} {kind : BlockKind}
    (h : ∀ b ∈ inner, b.1 ≠ kind) (j : Nat) (outer : List (BlockKind × Nat)) (i line : Nat)
    (ps : List Piece) :
    matchedPlaces (inner ++ (kind, j) :: outer) i (.tag (.closing kind) line :: ps)
      = j :: i :: matchedPlaces outer (i + 1) ps := by
  have hd : (inner ++ (kind, j) :: outer).dropWhile (·.1 ≠ kind) = (kind, j) :: outer := by
    rw [List.dropWhile_append_of_pos fun b hb => by simpa using h b hb,
      List.dropWhile_cons_of_neg (by simp)]
  simp only [matchedPlaces, pairs, hd]
  rfl

theorem matchedPlaces_of_not_isBlockTag {p : Piece} (h : p.isBlockTag = false)
    (opened : List (BlockKind × Nat)) (i : Nat) (ps : List Piece) :
    matchedPlaces opened i (p :: ps) = matchedPlaces opened (i + 1) ps := by
  rcases p with cs | ⟨_ | _ | _ | _, line⟩
  case tag.opening => cases h
  case tag.closing => cases h
  all_goals rfl

/-- Either no open block is of a kind, or there is an innermost one. -/
theorem eq_append_of_kind {α : Type} (kindOf : α → BlockKind) (kind : BlockKind) (bs : List α) :
    (∀ b ∈ bs, kindOf b ≠ kind) ∨
      ∃ inner b outer, bs = inner ++ b :: outer ∧ (∀ b ∈ inner, kindOf b ≠ kind) ∧
        kindOf b = kind := by
  cases h : bs.find? (kindOf · = kind) with
  | none =>
      left
      simpa using List.find?_eq_none.1 h
  | some b =>
      right
      obtain ⟨hb, inner, outer, rfl, hinner⟩ := List.find?_eq_some_iff_append.1 h
      exact ⟨inner, b, outer, rfl, fun c hc => by simpa using hinner c hc, by simpa using hb⟩

/-- Only open blocks and pieces still to come have places that match. -/
theorem mem_matchedPlaces {ps : List Piece} : ∀ {opened : List (BlockKind × Nat)} {i j : Nat},
    j ∈ matchedPlaces opened i ps → j ∈ opened.map (·.2) ∨ i ≤ j := by
  induction ps with
  | nil =>
      intro opened i j h
      simp [matchedPlaces, pairs] at h
  | cons p ps ih =>
      intro opened i j h
      rcases hp : p.isBlockTag with _ | _
      · rw [matchedPlaces_of_not_isBlockTag hp] at h
        exact (ih h).imp_right (by omega)
      rcases p with cs | ⟨⟨kind, subject⟩ | kind | _ | _, line⟩
      case tag.opening =>
        rw [matchedPlaces_opening] at h
        rcases ih h with h | h
        · rcases List.mem_cons.1 h with rfl | h
          · exact Or.inr (Nat.le_refl _)
          · exact Or.inl h
        · exact Or.inr (by omega)
      case tag.closing =>
        rcases eq_append_of_kind (·.1) kind opened with hall | ⟨inner, ⟨_, o⟩, outer, rfl, hinner, rfl⟩
        · rw [matchedPlaces_closing_of_all hall] at h
          exact (ih h).imp_right (by omega)
        · rw [matchedPlaces_closing_of_append hinner] at h
          rcases List.mem_cons.1 h with rfl | h
          · exact Or.inl (by simp)
          rcases List.mem_cons.1 h with rfl | h
          · exact Or.inr (Nat.le_refl _)
          refine (ih h).imp (fun h => ?_) (by omega)
          rw [List.map_append, List.map_cons]
          exact List.mem_append_right _ (List.mem_cons_of_mem _ h)
      all_goals cases hp

end Piece

/-! ## Open blocks that are dissolved ahead of time -/

/-- A block that is closed is one more node of the body that it belongs to. -/
theorem OpenBlock.close_eq_add (b : OpenBlock) (body : Template) :
    b.close body = Template.add b.before (.block b.kind b.subject b.line body) :=
  (Template.add_eq_append rfl _).symm

namespace Progress

open Piece

/-- The progress in which those of some open blocks are dissolved whose places are not kept. -/
def settle (keep : Nat → Bool) : List (OpenBlock × Nat) → Template → Progress
  | [], nodes => ⟨[], nodes⟩
  | (b, i) :: bs, nodes =>
    if keep i then
      let outer := settle keep bs b.before
      ⟨{ b with before := outer.nodes } :: outer.pending, nodes⟩
    else settle keep bs (b.dissolve nodes)

theorem settle_add (keep : Nat → Bool) (bs : List (OpenBlock × Nat)) (nodes : Template) (n : Node) :
    settle keep bs (Template.add nodes n) = (settle keep bs nodes).add n := by
  induction bs generalizing nodes with
  | nil => rfl
  | cons b bs ih =>
      obtain ⟨b, i⟩ := b
      by_cases hi : keep i = true
      · simp only [settle, if_pos hi]
        rfl
      · -- The dissolved body takes the node in with its other nodes, or with the text before it.
        simp only [settle, if_neg hi]
        rw [← ih]
        congr 1
        exact Template.join_add b.before nodes n

/-- Blocks in front that are not kept are dissolved, innermost first. -/
theorem settle_append {keep : Nat → Bool} {inner : List (OpenBlock × Nat)}
    (h : ∀ b ∈ inner, keep b.2 = false) (outer : List (OpenBlock × Nat)) (nodes : Template) :
    settle keep (inner ++ outer) nodes
      = settle keep outer (finish ⟨inner.map (·.1), nodes⟩) := by
  induction inner generalizing nodes with
  | nil => rfl
  | cons b inner ih =>
      obtain ⟨hb, hinner⟩ := List.forall_mem_cons.1 h
      rw [List.cons_append, settle, if_neg (by simp [hb]), ih hinner]
      rfl

theorem closeKind?_append {kind : BlockKind} {inner : List OpenBlock}
    (h : ∀ b ∈ inner, b.kind ≠ kind) (outer : List OpenBlock) (nodes : Template) :
    closeKind? kind (inner ++ outer) nodes = closeKind? kind outer (finish ⟨inner, nodes⟩) := by
  induction inner generalizing nodes with
  | nil => rfl
  | cons b inner ih =>
      obtain ⟨hb, hinner⟩ := List.forall_mem_cons.1 h
      rw [List.cons_append, closeKind?, if_neg hb, ih hinner]
      rfl

/-! ## Both readings side by side -/

/-- The open blocks with the places of their tags, as `pairs` sees them. -/
def tags (bs : List (OpenBlock × Nat)) : List (BlockKind × Nat) :=
  bs.map fun b => (b.1.kind, b.2)

theorem tags_ne {bs : List (OpenBlock × Nat)} {kind : BlockKind}
    (h : ∀ b ∈ bs, b.1.kind ≠ kind) : ∀ t ∈ tags bs, t.1 ≠ kind := by
  intro t ht
  obtain ⟨b, hb, rfl⟩ := List.mem_map.1 ht
  exact h b hb

/-- What both readings make of the rest of the pieces is the same. -/
def ReadsAlike (keep : Nat → Bool) (bs : List (OpenBlock × Nat)) (nodes : Template) (i : Nat)
    (ps : List Piece) : Prop :=
  (keepTags keep i ps).foldlM stepStrict (settle keep bs nodes) >>= finishStrict
    = .ok (ps.foldl step ⟨bs.map (·.1), nodes⟩).finish

theorem readsAlike_nil {keep : Nat → Bool} {bs : List (OpenBlock × Nat)}
    (h : ∀ b ∈ bs, keep b.2 = false) (nodes : Template) (i : Nat) :
    ReadsAlike keep bs nodes i [] := by
  have hs := settle_append h [] nodes
  rw [List.append_nil] at hs
  rw [ReadsAlike, keepTags, hs]
  rfl

/-- What becomes a node by itself is one more node for both readings. -/
theorem readsAlike_node {keep : Nat → Bool} {bs : List (OpenBlock × Nat)} {nodes : Template}
    {i : Nat} {p : Piece} {n : Node} {ps : List Piece} (hp : p.isBlockTag = false)
    (hn : ∀ q : Progress, q.step p = q.add n) (hs : ∀ q : Progress, q.stepStrict p = .ok (q.add n))
    (h : ReadsAlike keep bs (Template.add nodes n) (i + 1) ps) :
    ReadsAlike keep bs nodes i (p :: ps) := by
  rw [ReadsAlike, settle_add] at h
  rw [ReadsAlike, keepTags_cons_of_kept (Or.inl hp), List.foldlM_cons, hs, List.foldl_cons, hn]
  exact h

/-- An opening tag opens a block for the one reading, and for the other only if it is kept. -/
theorem readsAlike_opening {keep : Nat → Bool} {bs : List (OpenBlock × Nat)} {nodes : Template}
    {i : Nat} {kind : BlockKind} {subject : List Char} {line : Nat} {ps : List Piece}
    (h : ReadsAlike keep ((⟨kind, String.ofList subject, line, nodes⟩, i) :: bs) [] (i + 1) ps) :
    ReadsAlike keep bs nodes i (.tag (.opening kind subject) line :: ps) := by
  rw [ReadsAlike] at h
  by_cases hi : keep i = true
  · rw [settle, if_pos hi] at h
    rw [ReadsAlike, keepTags_cons_of_kept (Or.inr hi)]
    exact h
  · rw [settle, if_neg hi] at h
    rw [ReadsAlike, keepTags_cons_of_dropped rfl (Bool.not_eq_true _ ▸ hi)]
    exact h

/-- A closing tag without a block to close is dropped by both readings. -/
theorem readsAlike_closing_of_all {keep : Nat → Bool} {bs : List (OpenBlock × Nat)}
    {nodes : Template} {i : Nat} {kind : BlockKind} {line : Nat} {ps : List Piece}
    (hi : keep i = false) (hbs : ∀ b ∈ bs, b.1.kind ≠ kind)
    (h : ReadsAlike keep bs nodes (i + 1) ps) :
    ReadsAlike keep bs nodes i (.tag (.closing kind) line :: ps) := by
  have hnone : closeKind? kind (bs.map (·.1)) nodes = none := by
    have hmap : ∀ b ∈ bs.map (·.1), b.kind ≠ kind := by simpa using hbs
    have := closeKind?_append hmap [] nodes
    rwa [List.append_nil] at this
  rw [ReadsAlike, keepTags_cons_of_dropped rfl hi, List.foldl_cons, step, hnone]
  exact h

/-- A closing tag that is kept closes its block, once the blocks in it are dissolved. -/
theorem readsAlike_closing_of_append {keep : Nat → Bool} {inner outer : List (OpenBlock × Nat)}
    {b : OpenBlock} {j : Nat} {nodes : Template} {i line : Nat} {ps : List Piece}
    (hi : keep i = true) (hj : keep j = true) (hinner : ∀ c ∈ inner, keep c.2 = false)
    (hkind : ∀ c ∈ inner, c.1.kind ≠ b.kind)
    (h : ReadsAlike keep outer (b.close (finish ⟨inner.map (·.1), nodes⟩)) (i + 1) ps) :
    ReadsAlike keep (inner ++ (b, j) :: outer) nodes i (.tag (.closing b.kind) line :: ps) := by
  have hsome : closeKind? b.kind ((inner ++ (b, j) :: outer).map (·.1)) nodes
      = some ⟨outer.map (·.1), b.close (finish ⟨inner.map (·.1), nodes⟩)⟩ := by
    have hmap : ∀ c ∈ inner.map (·.1), c.kind ≠ b.kind := by simpa using hkind
    rw [List.map_append, closeKind?_append hmap, List.map_cons, closeKind?, if_pos rfl]
  -- The strict reading has dissolved what stands before the block, but the block itself joins no
  -- text, so it does not matter whether it comes before or after that.
  have hstrict (body : Template) :
      stepStrict (settle keep ((b, j) :: outer) body) (.tag (.closing b.kind) line)
        = .ok (settle keep outer (b.close body)) := by
    rw [OpenBlock.close_eq_add, settle_add, settle, if_pos hj]
    simp only [stepStrict, closeStrict, if_pos, OpenBlock.close_eq_add]
    rfl
  rw [ReadsAlike, keepTags_cons_of_kept (Or.inr hi), settle_append hinner, List.foldlM_cons,
    hstrict, List.foldl_cons, step, hsome]
  exact h

/-! ## The run -/

/-- The open blocks have tags before place `i`, an inner block later than an outer one. -/
def InOrder (bs : List (OpenBlock × Nat)) (i : Nat) : Prop :=
  (i :: bs.map (·.2)).Pairwise (· > ·)

/-- Of the tags of the open blocks and of the pieces still to come, the first of which has place
    `i`, those are kept that match. -/
def KeepsMatched (keep : Nat → Bool) (bs : List (OpenBlock × Nat)) (i : Nat) (ps : List Piece) :
    Prop :=
  ∀ j, j ∈ bs.map (·.2) ∨ i ≤ j → (keep j = true ↔ j ∈ matchedPlaces (tags bs) i ps)

theorem InOrder.lt {bs : List (OpenBlock × Nat)} {i : Nat} (h : InOrder bs i) {j : Nat}
    (hj : j ∈ bs.map (·.2)) : j < i :=
  (List.pairwise_cons.1 h).1 j hj

theorem InOrder.mono {bs : List (OpenBlock × Nat)} {i i' : Nat} (h : InOrder bs i) (hi : i ≤ i') :
    InOrder bs i' :=
  List.pairwise_cons.2 ⟨fun _ hj => Nat.lt_of_lt_of_le (h.lt hj) hi, (List.pairwise_cons.1 h).2⟩

theorem InOrder.opening {bs : List (OpenBlock × Nat)} {i : Nat} (h : InOrder bs i)
    (b : OpenBlock) : InOrder ((b, i) :: bs) (i + 1) := by
  refine List.pairwise_cons.2 ⟨fun j hj => ?_, h⟩
  rcases List.mem_cons.1 hj with rfl | hj
  · exact Nat.lt_succ_self _
  · exact Nat.lt_succ_of_lt (h.lt hj)

theorem InOrder.outer {inner outer : List (OpenBlock × Nat)} {b : OpenBlock} {i j : Nat}
    (h : InOrder (inner ++ (b, j) :: outer) i) : InOrder outer j := by
  rw [InOrder, List.map_append, List.map_cons] at h
  exact (List.pairwise_append.1 (List.pairwise_cons.1 h).2).2.1

theorem InOrder.inner {inner outer : List (OpenBlock × Nat)} {b : OpenBlock} {i j k : Nat}
    (h : InOrder (inner ++ (b, j) :: outer) i) (hk : k ∈ inner.map (·.2)) : j < k := by
  rw [InOrder, List.map_append, List.map_cons] at h
  exact (List.pairwise_append.1 (List.pairwise_cons.1 h).2).2.2 k hk j (List.mem_cons_self ..)

/-- Only open blocks and pieces still to come have places that match. -/
theorem mem_or_le_of_mem_matchedPlaces {bs : List (OpenBlock × Nat)} {i j : Nat} {ps : List Piece}
    (h : j ∈ matchedPlaces (tags bs) i ps) : j ∈ bs.map (·.2) ∨ i ≤ j := by
  simpa [tags] using mem_matchedPlaces h

theorem KeepsMatched.next {keep : Nat → Bool} {bs : List (OpenBlock × Nat)} {i : Nat} {p : Piece}
    {ps : List Piece} (h : KeepsMatched keep bs i (p :: ps))
    (hp : matchedPlaces (tags bs) i (p :: ps) = matchedPlaces (tags bs) (i + 1) ps) :
    KeepsMatched keep bs (i + 1) ps := by
  intro j hj
  rw [← hp]
  exact h j (hj.imp_right (by omega))

theorem KeepsMatched.opening {keep : Nat → Bool} {bs : List (OpenBlock × Nat)} {i line : Nat}
    {b : OpenBlock} {subject : List Char} {ps : List Piece}
    (h : KeepsMatched keep bs i (.tag (.opening b.kind subject) line :: ps)) :
    KeepsMatched keep ((b, i) :: bs) (i + 1) ps := by
  intro j hj
  refine h j ?_
  rcases hj with hj | hj
  · rcases List.mem_cons.1 hj with rfl | hj
    · exact Or.inr (Nat.le_refl _)
    · exact Or.inl hj
  · exact Or.inr (by omega)

/-- What matches once a closing tag has closed its block: that pair, and no block in it. -/
theorem KeepsMatched.closing {keep : Nat → Bool} {inner outer : List (OpenBlock × Nat)}
    {b : OpenBlock} {i j line : Nat} {ps : List Piece}
    (hi : InOrder (inner ++ (b, j) :: outer) i) (hkind : ∀ c ∈ inner, c.1.kind ≠ b.kind)
    (h : KeepsMatched keep (inner ++ (b, j) :: outer) i (.tag (.closing b.kind) line :: ps)) :
    keep i = true ∧ keep j = true ∧ (∀ c ∈ inner, keep c.2 = false) ∧
      KeepsMatched keep outer (i + 1) ps := by
  have hplaces : matchedPlaces (tags (inner ++ (b, j) :: outer)) i
      (.tag (.closing b.kind) line :: ps) = j :: i :: matchedPlaces (tags outer) (i + 1) ps := by
    rw [tags, List.map_append, List.map_cons]
    exact matchedPlaces_closing_of_append (tags_ne hkind) ..
  have hkeep (k : Nat) (hk : k ∈ (inner ++ (b, j) :: outer).map (·.2) ∨ i ≤ k) :
      keep k = true ↔ k = j ∨ k = i ∨ k ∈ matchedPlaces (tags outer) (i + 1) ps := by
    rw [h k hk, hplaces, List.mem_cons, List.mem_cons]
  have hmem : j ∈ (inner ++ (b, j) :: outer).map (·.2) := by simp
  have hji : j < i := hi.lt hmem
  refine ⟨?_, ?_, fun c hc => ?_, fun k hk => ?_⟩
  · exact (hkeep i (Or.inr (Nat.le_refl i))).2 (Or.inr (Or.inl rfl))
  · exact (hkeep j (Or.inl hmem)).2 (Or.inl rfl)
  · -- The tag of a block in between is not of the pair, and nothing later closes the block.
    have hc : c.2 ∈ inner.map (·.2) := List.mem_map_of_mem hc
    have hcs : c.2 ∈ (inner ++ (b, j) :: outer).map (·.2) := by
      rw [List.map_append]
      exact List.mem_append_left _ hc
    have hjc : j < c.2 := hi.inner hc
    have hci : c.2 < i := hi.lt hcs
    rw [← Bool.not_eq_true, hkeep c.2 (Or.inl hcs)]
    rintro (hc | hc | hc)
    · omega
    · omega
    · rcases mem_or_le_of_mem_matchedPlaces hc with hc | hc
      · have := hi.outer.lt hc
        omega
      · omega
  · have hks : k ∈ (inner ++ (b, j) :: outer).map (·.2) ∨ i ≤ k := by
      refine hk.imp (fun hk => ?_) (by omega)
      rw [List.map_append, List.map_cons]
      exact List.mem_append_right _ (List.mem_cons_of_mem _ hk)
    have hne : k ≠ j ∧ k ≠ i := by
      rcases hk with hk | hk
      · have := hi.outer.lt hk
        omega
      · omega
    rw [hkeep k hks]
    simp [hne]

/-- Both readings make the same of the pieces, as long as the tags that match are kept. -/
theorem readsAlike {ps : List Piece} : ∀ {keep : Nat → Bool} {bs : List (OpenBlock × Nat)} {i : Nat}
    (nodes : Template), InOrder bs i → KeepsMatched keep bs i ps →
      ReadsAlike keep bs nodes i ps := by
  induction ps with
  | nil =>
      intro keep bs i nodes hi hk
      refine readsAlike_nil (fun b hb => ?_) nodes i
      simpa [matchedPlaces, pairs] using hk b.2 (Or.inl (List.mem_map_of_mem hb))
  | cons p ps ih =>
      intro keep bs i nodes hi hk
      have hi' : InOrder bs (i + 1) := hi.mono (Nat.le_succ i)
      rcases p with cs | ⟨⟨kind, subject⟩ | kind | ⟨name, arguments⟩ | e, line⟩
      case text =>
        exact readsAlike_node rfl (fun q => rfl) (fun q => rfl) (ih _ hi' (hk.next rfl))
      case tag.component =>
        exact readsAlike_node rfl (fun q => rfl) (fun q => rfl) (ih _ hi' (hk.next rfl))
      case tag.variable =>
        exact readsAlike_node rfl (fun q => rfl) (fun q => rfl) (ih _ hi' (hk.next rfl))
      case tag.opening =>
        exact readsAlike_opening (ih [] (hi.opening _) (KeepsMatched.opening hk))
      case tag.closing =>
        rcases eq_append_of_kind (·.1.kind) kind bs with
          hall | ⟨inner, ⟨b, j⟩, outer, rfl, hkind, rfl⟩
        · have hplaces := matchedPlaces_closing_of_all (tags_ne hall) i line ps
          have hki : keep i = false := by
            rw [← Bool.not_eq_true, hk i (Or.inr (Nat.le_refl i)), hplaces]
            intro hmem
            rcases mem_or_le_of_mem_matchedPlaces hmem with hmem | hmem
            · exact Nat.lt_irrefl i (hi.lt hmem)
            · omega
          exact readsAlike_closing_of_all hki hall (ih nodes hi' (hk.next hplaces))
        · obtain ⟨hki, hkj, hinner, hnext⟩ := hk.closing hi hkind
          have hji : j < i := hi.lt (by simp)
          have houter : InOrder outer (i + 1) := hi.outer.mono (by omega)
          exact readsAlike_closing_of_append hki hkj hinner hkind (ih _ houter hnext)

end Progress

namespace Template

/-- The template made of pieces is the one that the strict reading makes of them without the tags
    that match nothing. -/
theorem ofPiecesStrict_matchedOnly (ps : List Piece) :
    ofPiecesStrict (Piece.matchedOnly ps) = .ok (ofPieces ps) := by
  have hkeep : Progress.KeepsMatched (fun i => (Piece.matchedPlaces [] 0 ps).contains i) [] 0 ps :=
    fun j _ => by simp [Progress.tags]
  have hin : Progress.InOrder [] 0 := List.pairwise_singleton _ _
  exact Progress.readsAlike [] hin hkeep

/-- **Lenient reading drops the tags that match nothing.** Every text is a template, the one that
    the strict reading makes of its pieces once the block tags are taken out that match nothing; and
    then the strict reading never fails. -/
theorem parse_matchedOnly (s : String) :
    ofPiecesStrict (Piece.matchedOnly (Piece.ofText s.toList)) = .ok (parse s) :=
  ofPiecesStrict_matchedOnly _

end Template

end Stencil
