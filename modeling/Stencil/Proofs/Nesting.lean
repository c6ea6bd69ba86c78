import Mathlib.Order.Bounds.Basic
import Stencil.Proofs.Balance
import Stencil.Proofs.Checking
import Stencil.Proofs.Recovery

set_option autoImplicit false

/-! # Depth of a template

The depth of the tree of a template is a matter of its block tags: going through the tags that
match, it is the greatest number of blocks that are open at once (`depth_parse`). How many are open
is told from the tags before that point alone, as the excess of opening over closing ones
(`Bracket.excess`).

The strict reading keeps both counts side by side: the open blocks are the excess so far, and the
depth of what has been read, where open blocks count, is the greatest excess so far
(`Progress.Measured`). -/

namespace Stencil

/-! ## Counting block tags -/

namespace Bracket

/-- Whether a block tag opens a block. -/
def isOpening : Bracket → Bool
  | .opens _ _ => true
  | .closes _ _ => false

/-- The number of opening tags less that of closing tags. -/
def excess (w : List Bracket) : Int :=
  w.countP isOpening - w.countP (!isOpening ·)

/-- How many more opening than closing tags there are up to each point. -/
def excesses (w : List Bracket) : Set Int :=
  {k | ∃ u, u <+: w ∧ excess u = k}

theorem excess_append (u v : List Bracket) : excess (u ++ v) = excess u + excess v := by
  simp only [excess, List.countP_append]
  omega

theorem excess_opens (kind : BlockKind) (line : Nat) : excess [.opens kind line] = 1 := rfl

theorem excess_closes (kind : BlockKind) (line : Nat) : excess [.closes kind line] = -1 := rfl

/-- With one more tag there is one more point. -/
theorem excesses_concat (w : List Bracket) (b : Bracket) :
    excesses (w ++ [b]) = insert (excess (w ++ [b])) (excesses w) := by
  ext k
  simp only [excesses, List.prefix_concat_iff, Set.mem_ofPred_eq, Set.mem_insert_iff]
  constructor
  · rintro ⟨u, rfl | hu, rfl⟩
    · exact Or.inl rfl
    · exact Or.inr ⟨u, hu, rfl⟩
  · rintro (rfl | ⟨u, hu, rfl⟩)
    · exact ⟨_, Or.inl rfl, rfl⟩
    · exact ⟨u, Or.inr hu, rfl⟩

theorem Balanced.excess_eq {w : List Bracket} (h : Balanced w) : excess w = 0 := by
  induction h with
  | nil => rfl
  | @block kind openLine closeLine inside rest _ _ ihInside ihRest =>
      have hsplit : Bracket.opens kind openLine :: inside ++ .closes kind closeLine :: rest
          = [.opens kind openLine] ++ inside ++ ([.closes kind closeLine] ++ rest) := by simp
      rw [hsplit, excess_append, excess_append, excess_append, ihInside, ihRest, excess_opens,
        excess_closes]
      rfl

/-- The excess is the number of the blocks that are open. -/
theorem Leaves.excess_eq {w : List Bracket} {opened : List (BlockKind × Nat)}
    (h : Leaves w opened) : excess w = opened.length := by
  induction h with
  | none hw => exact hw.excess_eq
  | @block w v opened kind line _ hv ih =>
      have hsplit : w ++ Bracket.opens kind line :: v = w ++ [.opens kind line] ++ v := by simp
      rw [hsplit, excess_append, excess_append, ih, hv.excess_eq, excess_opens, List.length_cons]
      omega

/-- Up to any point of balanced tags, every closing tag closes the block that was opened last. -/
theorem Balanced.exists_leaves {u w : List Bracket} (h : Balanced w) (hu : u <+: w) :
    ∃ opened, Leaves u opened := by
  obtain ⟨v, rfl⟩ := hu
  have hrun := run_of_balanced h []
  rw [run_append] at hrun
  obtain ⟨opened, hu, -⟩ := bind_eq_ok.1 hrun
  exact ⟨opened, leaves_append_of_run (.none .nil) hu⟩

end Bracket

/-! ## The depth of what has been read -/

theorem Template.depth_add (nodes : Template) (n : Node) :
    depth (add nodes n) = max (depth nodes) (depthNode n) := by
  fun_induction add nodes n with
  | case1 n => simp [depth]
  | case2 s t => simp [depth, depthNode]
  | case3 m ms n _ ih => rw [depth, ih, depth, Nat.max_assoc]

namespace Progress

/-- The depth of some open blocks with the nodes in the innermost one. -/
def depthIn : List OpenBlock → Template → Nat
  | [], nodes => Template.depth nodes
  | b :: bs, nodes => max (depthIn bs b.before) (bs.length + 1 + Template.depth nodes)

/-- The depth of what has been read, where open blocks count. -/
def depthSoFar (p : Progress) : Nat :=
  depthIn p.pending p.nodes

theorem length_le_depthIn (bs : List OpenBlock) (nodes : Template) :
    bs.length ≤ depthIn bs nodes := by
  cases bs with
  | nil => exact Nat.zero_le _
  | cons b bs =>
      rw [depthIn, List.length_cons]
      omega

theorem depthIn_add (bs : List OpenBlock) (nodes : Template) (n : Node) :
    depthIn bs (Template.add nodes n)
      = max (depthIn bs nodes) (bs.length + Template.depthNode n) := by
  cases bs with
  | nil => simp [depthIn, Template.depth_add]
  | cons b bs =>
      rw [depthIn, depthIn, Template.depth_add, List.length_cons]
      omega

/-- A block is as deep once it is closed as it was when it was open. -/
theorem depthIn_close (b : OpenBlock) (bs : List OpenBlock) (nodes : Template) :
    depthIn bs (b.close nodes) = depthIn (b :: bs) nodes := by
  rw [OpenBlock.close_eq_add, depthIn_add, Template.depthNode, depthIn]
  omega

/-- Nodes that are no blocks make nothing deeper. -/
theorem depthSoFar_add {n : Node} (h : Template.depthNode n = 0) (p : Progress) :
    (p.add n).depthSoFar = p.depthSoFar := by
  have hadd : (p.add n).depthSoFar = max p.depthSoFar (p.pending.length + Template.depthNode n) :=
    depthIn_add _ _ _
  rw [hadd, h]
  exact Nat.max_eq_left (length_le_depthIn p.pending p.nodes)

/-- What the block tags up to here say of the open blocks and of the depth. -/
structure Measured (w : List Bracket) (p : Progress) : Prop where
  pending : (p.pending.length : Int) = Bracket.excess w
  depth : IsGreatest (Bracket.excesses w) p.depthSoFar

theorem measured_start : start.Measured [] := by
  refine ⟨rfl, ⟨[], List.nil_prefix, rfl⟩, ?_⟩
  rintro k ⟨u, hu, rfl⟩
  rw [List.prefix_nil.1 hu]
  exact Int.le_refl _

theorem Measured.add {w : List Bracket} {p : Progress} (h : p.Measured w) {n : Node}
    (hn : Template.depthNode n = 0) : (p.add n).Measured w := by
  refine ⟨h.pending, ?_⟩
  rw [depthSoFar_add hn]
  exact h.depth

/-- One more tag is counted both ways. -/
theorem Measured.concat {w : List Bracket} {p q : Progress} (h : p.Measured w) {b : Bracket}
    (hpending : (q.pending.length : Int) = p.pending.length + Bracket.excess [b])
    (hdepth : q.depthSoFar = max q.pending.length p.depthSoFar) : q.Measured (w ++ [b]) := by
  have hexcess : (q.pending.length : Int) = Bracket.excess (w ++ [b]) := by
    rw [hpending, h.pending, Bracket.excess_append]
  have hmax : (q.depthSoFar : Int) = max (q.pending.length : Int) p.depthSoFar := by
    rw [hdepth]
    omega
  refine ⟨hexcess, ?_⟩
  rw [Bracket.excesses_concat, ← hexcess, hmax]
  exact h.depth.insert _

theorem Measured.stepStrict {w : List Bracket} {p q : Progress} (h : p.Measured w) {piece : Piece}
    (hq : p.stepStrict piece = .ok q) : q.Measured (w ++ piece.bracket?.toList) := by
  rcases piece with cs | ⟨⟨kind, subject⟩ | kind | ⟨name, arguments⟩ | e, line⟩
  case tag.opening =>
    cases hq
    refine h.concat rfl ?_
    simp only [step, openBlock, depthSoFar, depthIn, Template.depth, List.length_cons]
    omega
  case tag.closing =>
    obtain ⟨_ | ⟨b, bs⟩, nodes⟩ := p
    · cases hq
    · simp only [Progress.stepStrict, closeStrict] at hq
      split at hq
      · cases hq
        have hle := length_le_depthIn bs (b.close nodes)
        refine h.concat ?_ ?_
        · show (bs.length : Int) = (b :: bs).length + Bracket.excess [.closes kind line]
          rw [Bracket.excess_closes, List.length_cons]
          omega
        · rw [depthSoFar, depthSoFar, ← depthIn_close]
          exact (Nat.max_eq_right hle).symm
      · split at hq <;> cases hq
  all_goals
    cases hq
    show Measured (w ++ []) (p.add _)
    rw [List.append_nil]
    exact h.add rfl

end Progress

/-! ## Concern about depth -/

theorem Strictness.strict_le_rank_iff {s : Strictness} :
    Strictness.strict.rank ≤ s.rank ↔ s = .strict := by
  cases s <;> decide

namespace Engine

theorem mem_whenAtLeast {strictness least : Strictness} {concerns : List Concern} {c : Concern} :
    c ∈ whenAtLeast strictness least concerns ↔ least.rank ≤ strictness.rank ∧ c ∈ concerns := by
  unfold whenAtLeast
  split <;> simp [*]

theorem deepNesting_not_mem_unusedVariables (used expected : List String) (d : Nat) :
    .deepNesting d ∉ unusedVariables used expected := by
  unfold unusedVariables
  split <;> simp

theorem deepNesting_not_mem_longLines (text : List Char) (d : Nat) :
    .deepNesting d ∉ longLines text := by
  intro h
  obtain ⟨⟨l, i⟩, -, hc⟩ := List.mem_filterMap.1 h
  dsimp only at hc
  split at hc <;> cases hc

/-- A check of a text whose tags match is concerned about the depth of the template if it is strict
    and the depth is great. -/
theorem deepNesting_mem_check {text : String} (hsound : syntaxProblems text = []) (e : Engine)
    (strictness : Strictness) (expected : List String) (limit : Option Int) (d : Nat) :
    .deepNesting d ∈ (e.check strictness text expected limit).concerns ↔
      strictness = .strict ∧ deepestNesting < d ∧ d = Template.depth (Template.parse text) := by
  have hnonempty : ¬ text.isEmpty := by
    rw [String.isEmpty_iff]
    rintro rfl
    cases hsound
  -- The concerns that are raised from another strictness on differ in that.
  have hother {concerns : List Concern} (least : Strictness) (hne : least ≠ .strict)
      (hleast : ∀ c ∈ concerns, c.least = least) : .deepNesting d ∉ concerns :=
    fun hmem => hne (hleast _ hmem).symm
  have hunknown : .deepNesting d ∉
      (Template.walk (Template.parse text)).flatMap e.functions.unknownIn := by
    refine hother .standard (by decide) fun c hc => ?_
    obtain ⟨n, -, hc⟩ := List.mem_flatMap.1 hc
    exact Functions.least_of_mem_unknownIn hc
  have hrisky : .deepNesting d ∉ (RiskyPlace.foundIn text.toList).map Concern.risky := by simp
  have hcontrol : .deepNesting d ∉ controlConcern text.toList :=
    hother _ (by decide) fun c hc => least_of_mem_controlConcern hc
  rw [concerns_check, concernGroups, if_neg hnonempty, hsound]
  simp only [List.isEmpty_nil, if_true, List.flatMap_append, List.flatMap_cons, List.flatMap_nil,
    List.append_nil, List.mem_append, mem_whenAtLeast, Strictness.strict_le_rank_iff, hunknown,
    hrisky, hcontrol, deepNesting_not_mem_unusedVariables, deepNesting_not_mem_longLines, and_false,
    false_or, or_false]
  refine and_congr_right fun _ => ?_
  split
  · rename_i hdeep
    rw [List.mem_singleton, Concern.deepNesting.injEq]
    exact ⟨fun h => ⟨h ▸ hdeep, h⟩, And.right⟩
  · rename_i hflat
    refine ⟨nofun, fun ⟨hd, h⟩ => ?_⟩
    exact absurd (h ▸ hd) hflat

end Engine

/-! ## The depth of a template -/

/-- The block tags of a text that match. -/
def Bracket.matchedIn (cs : List Char) : List Bracket :=
  (Piece.matchedOnly (Piece.ofText cs)).filterMap Piece.bracket?

namespace Template

/-- What strict reading makes of pieces is as deep as their block tags say. -/
theorem depth_of_ofPiecesStrict {ps : List Piece} {nodes : Template}
    (h : ofPiecesStrict ps = .ok nodes) :
    IsGreatest (Bracket.excesses (ps.filterMap Piece.bracket?)) (depth nodes) := by
  have hrun := foldlM_invariant (I := fun seen p => p.Measured (seen.flatMap (·.bracket?.toList)))
    (fun seen p piece q _ hp hq => ?_) Progress.measured_start (ofPiecesStrict_eq_ok.1 h)
  · rw [List.filterMap_eq_flatMap_toList]
    exact hrun.depth
  · rw [List.flatMap_append, List.flatMap_singleton]
    exact hp.stepStrict hq

theorem balanced_of_parseStrict {s : String} {nodes : Template} (h : parseStrict s = .ok nodes) :
    Bracket.Balanced (Bracket.ofText s.toList) := by
  have hverdict := ofPiecesStrict_eq_verdict (Piece.ofText s.toList)
  rw [parseStrict] at h
  rw [h] at hverdict
  exact Bracket.verdict_eq_ok_iff.1 hverdict.symm

theorem exists_parseStrict {s : String} (h : Engine.syntaxProblems s = []) :
    ∃ nodes, parseStrict s = .ok nodes := by
  rw [Engine.syntaxProblems, List.append_eq_nil_iff, List.map_eq_nil_iff, Option.toList_eq_nil_iff,
    fault?] at h
  obtain ⟨hfault, -⟩ := h
  split at hfault
  · cases hfault
  · split at hfault
    · rename_i nodes hnodes
      exact ⟨nodes, hnodes⟩
    · cases hfault

/-- A text whose block tags are balanced is as deep as blocks are open at some point of it. -/
theorem lt_depth_iff {w : List Bracket} (hw : Bracket.Balanced w) {n d : Nat}
    (hd : IsGreatest (Bracket.excesses w) d) :
    n < d ↔ ∃ before after opened, w = before ++ after ∧ Bracket.Leaves before opened ∧
      n < opened.length := by
  constructor
  · intro hn
    obtain ⟨before, hbefore, hexcess⟩ := hd.1
    obtain ⟨opened, hopened⟩ := hw.exists_leaves hbefore
    obtain ⟨after, rfl⟩ := hbefore
    rw [hopened.excess_eq, Int.natCast_inj] at hexcess
    exact ⟨before, after, opened, rfl, hopened, hexcess ▸ hn⟩
  · rintro ⟨before, after, opened, rfl, hopened, hn⟩
    have hle := hd.2 ⟨before, List.prefix_append _ _, rfl⟩
    rw [hopened.excess_eq, Int.ofNat_le] at hle
    exact Nat.lt_of_lt_of_le hn hle

/-- **The depth of a template is the greatest number of blocks that are open at once.** Of a text
    that strict reading accepts, it is the greatest excess of opening over closing tags among the
    block tags up to some point, and of any text it is that among the block tags that match. If
    nothing is wrong with the tags of a text, a check has a concern about deep nesting if it is
    strict and more blocks than are not called deep are open at some point of the text. -/
theorem depth_parse (s : String) :
    (∀ nodes, parseStrict s = .ok nodes →
      IsGreatest (Bracket.excesses (Bracket.ofText s.toList)) (depth (parse s))) ∧
    (∀ (e : Engine) strictness expected limit d, Engine.syntaxProblems s = [] →
      (.deepNesting d ∈ (e.check strictness s expected limit).concerns ↔
        strictness = .strict ∧ d = depth (parse s) ∧
        ∃ before after opened, Bracket.ofText s.toList = before ++ after ∧
          Bracket.Leaves before opened ∧ deepestNesting < opened.length)) ∧
    IsGreatest (Bracket.excesses (Bracket.matchedIn s.toList)) (depth (parse s)) := by
  have hstrict : ∀ nodes, parseStrict s = .ok nodes →
      IsGreatest (Bracket.excesses (Bracket.ofText s.toList)) (depth (parse s)) := by
    intro nodes h
    obtain rfl : nodes = parse s := ofPieces_of_ofPiecesStrict h
    exact depth_of_ofPiecesStrict h
  refine ⟨hstrict, fun e strictness expected limit d hsound => ?_,
    depth_of_ofPiecesStrict (ofPiecesStrict_matchedOnly _)⟩
  obtain ⟨nodes, h⟩ := exists_parseStrict hsound
  have hdeep := lt_depth_iff (n := deepestNesting) (balanced_of_parseStrict h) (hstrict nodes h)
  rw [Engine.deepNesting_mem_check hsound, ← hdeep]
  refine and_congr_right fun _ => ?_
  rw [and_comm]
  exact and_congr_right fun hd => by rw [hd]

/-- A loop with two conditions in it, one of them around another loop and a condition. -/
theorem depth_parse_four :
    let s := String.ofList (printed [.block .loop "a" 1 [
      .block .conditional "b" 1 [.text "x"],
      .block .conditional "c" 1 [.block .loop "d" 1 [.block .conditional "e" 1 [.text "y"]]]]])
    let report := (Engine.bare 0 []).check .strict s [] none
    (∃ nodes, parseStrict s = .ok nodes) ∧ Engine.syntaxProblems s = [] ∧
    IsGreatest (Bracket.excesses (Bracket.ofText s.toList)) 4 ∧
    .deepNesting 4 ∈ report.concerns ∧
    ∃ before after opened, Bracket.ofText s.toList = before ++ after ∧
      Bracket.Leaves before opened ∧ deepestNesting < opened.length := by
  intro s report
  have hsound : Engine.syntaxProblems s = [] := by decide +kernel
  have hdepth : depth (parse s) = 4 := by decide +kernel
  obtain ⟨hstrict, hcheck, -⟩ := depth_parse s
  obtain ⟨nodes, hnodes⟩ := exists_parseStrict hsound
  have hgreatest := hstrict nodes hnodes
  have hpoint := (lt_depth_iff (balanced_of_parseStrict hnodes) hgreatest).1
    (hdepth ▸ (by decide : deepestNesting < 4))
  rw [hdepth] at hgreatest
  have hconcern : .deepNesting 4 ∈ report.concerns :=
    (hcheck (Engine.bare 0 []) .strict [] none 4 hsound).2 ⟨rfl, hdepth.symm, hpoint⟩
  exact ⟨⟨nodes, hnodes⟩, hsound, hgreatest, hconcern, hpoint⟩

end Template

end Stencil
