import Stencil.Proofs.Outcome
import Stencil.Template.Blocks

set_option autoImplicit false

/-! # Balanced tags and the first fault

`Template.parseStrict` accepts a text if and only if its block tags are balanced, and else blames the
first tag that is at fault. What balanced means and which tag that is are said here of the sequence
of block tags alone, without a stack (`Bracket.Balanced`, `Bracket.Leaves`, `Bracket.FirstFault`);
`parseStrict_iff_balanced` is the statement.

In between stands `Bracket.run`, which keeps of the strict reading no more than the kinds and lines
of the open blocks. -/

namespace Stencil

/-! ## Block tags -/

/-- A block tag with its line. -/
inductive Bracket where
  | opens (kind : BlockKind) (line : Nat)
  | closes (kind : BlockKind) (line : Nat)
  deriving DecidableEq, Repr

/-- The block tag that a piece is, if it is one. -/
def Piece.bracket? : Piece → Option Bracket
  | .tag (.opening kind _) line => some (.opens kind line)
  | .tag (.closing kind) line => some (.closes kind line)
  | _ => none

namespace Bracket

/-- The block tags of a text, in order. -/
def ofText (cs : List Char) : List Bracket :=
  (Piece.ofText cs).filterMap Piece.bracket?

/-- Every tag belongs to one of the same kind, and what stands between the two is balanced. -/
inductive Balanced : List Bracket → Prop
  | nil : Balanced []
  | block {kind : BlockKind} {openLine closeLine : Nat} {inside rest : List Bracket} :
      Balanced inside → Balanced rest →
        Balanced (.opens kind openLine :: inside ++ .closes kind closeLine :: rest)

/-- Every closing tag closes the block that was opened last, and these blocks are open at the end,
    innermost first, with the lines of their tags. -/
inductive Leaves : List Bracket → List (BlockKind × Nat) → Prop
  | none {w : List Bracket} : Balanced w → Leaves w []
  | block {w v : List Bracket} {opened : List (BlockKind × Nat)} {kind : BlockKind} {line : Nat} :
      Leaves w opened → Balanced v → Leaves (w ++ .opens kind line :: v) ((kind, line) :: opened)

/-- The first fault in block tags and the line to blame. It is the first closing tag that does not
    close the innermost open block: nothing of its kind is open, or another block stands in between.
    Without such a tag, it is the innermost block that is open at the end. -/
inductive FirstFault (w : List Bracket) : Nat → Imbalance → Prop
  | unexpected {before after : List Bracket} {kind : BlockKind} {line : Nat}
      {opened : List (BlockKind × Nat)} :
      w = before ++ .closes kind line :: after → Leaves before opened →
        (∀ b ∈ opened, b.1 ≠ kind) → FirstFault w line (.unexpected kind line)
  | crossing {before after : List Bracket} {kind openKind : BlockKind} {line openLine : Nat}
      {outer : List (BlockKind × Nat)} :
      w = before ++ .closes kind line :: after → Leaves before ((openKind, openLine) :: outer) →
        openKind ≠ kind → (∃ b ∈ outer, b.1 = kind) →
          FirstFault w line (.crossing kind line openKind openLine)
  | unclosed {kind : BlockKind} {line : Nat} {outer : List (BlockKind × Nat)} :
      Leaves w ((kind, line) :: outer) → FirstFault w line (.unclosed kind line)

theorem Balanced.append {u v : List Bracket} (hu : Balanced u) (hv : Balanced v) :
    Balanced (u ++ v) := by
  induction hu with
  | nil => exact hv
  | block hinside _ _ ih =>
      rw [List.append_assoc, List.cons_append]
      exact .block hinside ih

theorem Leaves.append {u v : List Bracket} {opened : List (BlockKind × Nat)} (hu : Leaves u opened)
    (hv : Balanced v) : Leaves (u ++ v) opened := by
  cases hu with
  | none hu => exact .none (hu.append hv)
  | block hw hu =>
      rw [List.append_assoc, List.cons_append]
      exact .block hw (hu.append hv)

/-! ## Keeping the open blocks only -/

/-- The open blocks after a tag. -/
def step (opened : List (BlockKind × Nat)) : Bracket → Except Imbalance (List (BlockKind × Nat))
  | .opens kind line => .ok ((kind, line) :: opened)
  | .closes kind line =>
    match opened with
    | [] => .error (.unexpected kind line)
    | (openKind, openLine) :: outer =>
      if openKind = kind then .ok outer
      else if outer.any (·.1 = kind) then .error (.crossing kind line openKind openLine)
      else .error (.unexpected kind line)

/-- The open blocks after some tags. -/
def run (opened : List (BlockKind × Nat)) (w : List Bracket) :
    Except Imbalance (List (BlockKind × Nat)) :=
  w.foldlM step opened

theorem run_append (opened : List (BlockKind × Nat)) (u v : List Bracket) :
    run opened (u ++ v) = run opened u >>= fun opened' => run opened' v :=
  List.foldlM_append

/-- Balanced tags leave the open blocks as they are. -/
theorem run_of_balanced {u : List Bracket} (hu : Balanced u) :
    ∀ opened, run opened u = .ok opened := by
  induction hu with
  | nil => exact fun opened => rfl
  | @block kind openLine closeLine inside rest _ _ ihInside ihRest =>
      intro opened
      have hopen : run opened (.opens kind openLine :: inside)
          = .ok ((kind, openLine) :: opened) := ihInside _
      rw [run_append, hopen]
      have hclose : step ((kind, openLine) :: opened) (.closes kind closeLine) = .ok opened := by
        rw [step, if_pos rfl]
      show step _ _ >>= _ = _
      rw [hclose]
      exact ihRest opened

theorem run_of_leaves {u : List Bracket} {opened : List (BlockKind × Nat)} (h : Leaves u opened) :
    run [] u = .ok opened := by
  induction h with
  | none hw => exact run_of_balanced hw []
  | block _ hv ih =>
      rw [run_append, ih]
      exact run_of_balanced hv _

theorem leaves_step {w : List Bracket} {opened opened' : List (BlockKind × Nat)} {b : Bracket}
    (hw : Leaves w opened) (h : step opened b = .ok opened') : Leaves (w ++ [b]) opened' := by
  cases b with
  | opens kind line =>
      cases h
      exact .block hw .nil
  | closes kind line =>
      cases hw with
      | none hw => cases h
      | @block w v outer openKind openLine hw hv =>
          by_cases hk : openKind = kind
          · -- The block and what stands in it are balanced now and join what stands before.
            subst hk
            rw [step, if_pos rfl] at h
            cases h
            have hblock : Balanced (.opens openKind openLine :: v ++ [.closes openKind line]) :=
              .block hv .nil
            rw [List.append_assoc]
            exact hw.append hblock
          · rw [step, if_neg hk] at h
            split at h <;> cases h

/-- The run leaves those blocks open that it gives. -/
theorem leaves_append_of_run {u : List Bracket} : ∀ {w : List Bracket}
    {opened opened' : List (BlockKind × Nat)}, Leaves w opened → run opened u = .ok opened' →
      Leaves (w ++ u) opened' := by
  induction u with
  | nil =>
      intro w opened opened' hw h
      cases h
      rwa [List.append_nil]
  | cons b u ih =>
      intro w opened opened' hw h
      rw [run, List.foldlM_cons] at h
      obtain ⟨mid, hb, h⟩ := bind_eq_ok.1 h
      rw [List.append_cons]
      exact ih (leaves_step hw hb) h

/-- A closing tag without a block of its kind is unexpected, also when other blocks are open. -/
theorem step_closes_of_all {opened : List (BlockKind × Nat)} {kind : BlockKind}
    (h : ∀ b ∈ opened, b.1 ≠ kind) (line : Nat) :
    step opened (.closes kind line) = .error (.unexpected kind line) := by
  cases opened with
  | nil => rfl
  | cons b outer =>
      obtain ⟨hb, houter⟩ := List.forall_mem_cons.1 h
      have hany : outer.any (·.1 = kind) = false := by
        rw [List.any_eq_false]
        exact fun c hc => by simpa using houter c hc
      rw [step, if_neg hb, hany]
      rfl

/-- A closing tag crosses the innermost open block when one of its kind is open further out. -/
theorem step_closes_of_mem {outer : List (BlockKind × Nat)} {kind openKind : BlockKind}
    (hne : openKind ≠ kind) (h : ∃ b ∈ outer, b.1 = kind) (openLine line : Nat) :
    step ((openKind, openLine) :: outer) (.closes kind line)
      = .error (.crossing kind line openKind openLine) := by
  obtain ⟨b, hb, hkind⟩ := h
  rw [step, if_neg hne, if_pos (List.any_eq_true.2 ⟨b, hb, decide_eq_true hkind⟩)]

theorem firstFault_of_step {w : List Bracket} {opened : List (BlockKind × Nat)} {b : Bracket}
    {e : Imbalance} (hw : Leaves w opened) (h : step opened b = .error e) (after : List Bracket) :
    FirstFault (w ++ b :: after) e.line e := by
  cases b with
  | opens kind line => cases h
  | closes kind line =>
      by_cases hall : ∀ b ∈ opened, b.1 ≠ kind
      · rw [step_closes_of_all hall] at h
        cases h
        exact .unexpected rfl hw hall
      · obtain ⟨c, hc, hkind⟩ : ∃ c ∈ opened, c.1 = kind := by simpa using hall
        cases opened with
        | nil => cases hc
        | cons b outer =>
            obtain ⟨openKind, openLine⟩ := b
            by_cases hk : openKind = kind
            · -- The tag closes the innermost block, which is no fault.
              rw [step, if_pos hk] at h
              cases h
            · have hmem : ∃ c ∈ outer, c.1 = kind := by
                rcases List.mem_cons.1 hc with rfl | hc
                · exact absurd hkind hk
                · exact ⟨c, hc, hkind⟩
              rw [step_closes_of_mem hk hmem] at h
              cases h
              exact .crossing rfl hw hk hmem

/-- A run that fails does so at the first fault. -/
theorem firstFault_of_run {u : List Bracket} {e : Imbalance} : ∀ {w : List Bracket}
    {opened : List (BlockKind × Nat)}, Leaves w opened → run opened u = .error e →
      FirstFault (w ++ u) e.line e := by
  induction u with
  | nil =>
      intro w opened hw h
      cases h
  | cons b u ih =>
      intro w opened hw h
      rw [run, List.foldlM_cons] at h
      rcases bind_eq_error.1 h with hb | ⟨mid, hb, h⟩
      · exact firstFault_of_step hw hb u
      · rw [List.append_cons]
        exact ih (leaves_step hw hb) h

/-- What a run says at the end, when no block may be open. -/
def verdict (w : List Bracket) : Except Imbalance Unit :=
  run [] w >>= fun opened =>
    match opened with
    | [] => .ok ()
    | (kind, line) :: _ => .error (.unclosed kind line)

theorem verdict_eq_ok_iff {w : List Bracket} : verdict w = .ok () ↔ Balanced w := by
  constructor
  · intro h
    obtain ⟨opened, hr, h⟩ := bind_eq_ok.1 h
    have hw : Leaves w opened := leaves_append_of_run (.none .nil) hr
    cases hw with
    | none hw => exact hw
    | block => cases h
  · intro h
    rw [verdict, run_of_balanced h]
    rfl

theorem verdict_of_run_error {before after : List Bracket} {opened : List (BlockKind × Nat)}
    {b : Bracket} {e : Imbalance} (hw : Leaves before opened) (h : step opened b = .error e) :
    verdict (before ++ b :: after) = .error e := by
  have hrun : run [] (before ++ b :: after) = .error e := by
    rw [run_append, run_of_leaves hw]
    show run opened (b :: after) = _
    rw [run, List.foldlM_cons, h]
    rfl
  rw [verdict, hrun]
  rfl

theorem verdict_eq_error_iff {w : List Bracket} {line : Nat} {e : Imbalance} :
    verdict w = .error e ∧ e.line = line ↔ FirstFault w line e := by
  constructor
  · rintro ⟨h, rfl⟩
    rcases bind_eq_error.1 h with hr | ⟨opened, hr, h⟩
    · exact firstFault_of_run (.none .nil) hr
    · have hw : Leaves w opened := leaves_append_of_run (.none .nil) hr
      cases opened with
      | nil => cases h
      | cons b outer =>
          cases h
          exact .unclosed hw
  · intro h
    cases h with
    | unexpected heq hw hkind =>
        subst heq
        exact ⟨verdict_of_run_error hw (step_closes_of_all hkind line), rfl⟩
    | crossing heq hw hne hkind =>
        subst heq
        exact ⟨verdict_of_run_error hw (step_closes_of_mem hne hkind ..), rfl⟩
    | unclosed hw =>
        rw [verdict, run_of_leaves hw]
        exact ⟨rfl, rfl⟩

end Bracket

/-! ## The strict reading -/

namespace Progress

/-- The kinds and lines of the open blocks. -/
def opened (p : Progress) : List (BlockKind × Nat) :=
  p.pending.map fun b => (b.kind, b.line)

/-- A piece that is no block tag changes no open block; a block tag does to them what it does in
    the run. -/
theorem opened_stepStrict (p : Progress) (piece : Piece) :
    (p.stepStrict piece).map opened
      = match piece.bracket? with
        | none => .ok p.opened
        | some b => Bracket.step p.opened b := by
  rcases piece with cs | ⟨⟨kind, subject⟩ | kind | ⟨name, arguments⟩ | e, line⟩
  case tag.closing =>
    obtain ⟨pending, nodes⟩ := p
    cases pending with
    | nil => rfl
    | cons b bs =>
        have hany : (bs.map fun b => (b.kind, b.line)).any (·.1 = kind) = bs.any (·.kind = kind) :=
          List.any_map
        simp only [stepStrict, closeStrict, Piece.bracket?, opened, List.map_cons, Bracket.step,
          hany]
        by_cases hk : b.kind = kind
        · rw [if_pos hk, if_pos hk]
          rfl
        · rw [if_neg hk, if_neg hk]
          split <;> rfl
  all_goals rfl

theorem opened_foldlM (ps : List Piece) : ∀ p : Progress,
    (ps.foldlM stepStrict p).map opened = Bracket.run p.opened (ps.filterMap Piece.bracket?) := by
  induction ps with
  | nil => exact fun p => rfl
  | cons piece ps ih =>
      intro p
      have hrest : ((piece :: ps).foldlM stepStrict p).map opened
          = (p.stepStrict piece).map opened >>= fun o =>
              Bracket.run o (ps.filterMap Piece.bracket?) := by
        rw [List.foldlM_cons]
        cases p.stepStrict piece with
        | error e => rfl
        | ok q => exact ih q
      rw [hrest, opened_stepStrict]
      cases hb : piece.bracket? with
      | none =>
          rw [List.filterMap_cons_none hb]
          rfl
      | some b =>
          rw [List.filterMap_cons_some hb]
          rfl

/-- Where the strict reading goes on, it does what the lenient one does. -/
theorem step_of_stepStrict {p q : Progress} {piece : Piece} (h : p.stepStrict piece = .ok q) :
    p.step piece = q := by
  rcases piece with cs | ⟨⟨kind, subject⟩ | kind | ⟨name, arguments⟩ | e, line⟩
  case tag.closing =>
    obtain ⟨pending, nodes⟩ := p
    cases pending with
    | nil => cases h
    | cons b bs =>
        simp only [stepStrict, closeStrict] at h
        by_cases hk : b.kind = kind
        · rw [if_pos hk] at h
          cases h
          rw [step, closeKind?, if_pos hk]
          rfl
        · rw [if_neg hk] at h
          split at h <;> cases h
  all_goals
    cases h
    rfl

theorem foldl_step_of_foldlM {ps : List Piece} {p q : Progress}
    (h : ps.foldlM stepStrict p = .ok q) : ps.foldl step p = q := by
  refine foldlM_invariant (I := fun seen q => seen.foldl step p = q)
    (fun seen mid piece q _ hmid hq => ?_) rfl h
  rw [List.foldl_append, hmid]
  exact step_of_stepStrict hq

/-- If each step of a strict reading adds something to a list, then a whole reading adds this for all
    pieces. -/
theorem foldlM_eq_append {α : Type} {kept : Progress → List α} {added : Piece → List α}
    (hstep : ∀ p q piece, p.stepStrict piece = .ok q → kept q = kept p ++ added piece)
    {ps : List Piece} {p q : Progress} (h : ps.foldlM stepStrict p = .ok q) :
    kept q = kept p ++ ps.flatMap added := by
  refine foldlM_invariant (I := fun seen q => kept q = kept p ++ seen.flatMap added)
    (fun seen mid piece q _ hmid hq => ?_) (List.append_nil _).symm h
  rw [hstep mid q piece hq, hmid, List.flatMap_append, List.flatMap_singleton, List.append_assoc]

end Progress

namespace Template

/-- Whether the strict reading succeeds and what it blames if not is a matter of the block tags. -/
theorem ofPiecesStrict_eq_verdict (ps : List Piece) :
    (ofPiecesStrict ps).map (fun _ => ()) = Bracket.verdict (ps.filterMap Piece.bracket?) := by
  have hrun := Progress.opened_foldlM ps .start
  rw [ofPiecesStrict, Bracket.verdict]
  cases hp : ps.foldlM Progress.stepStrict .start with
  | error e =>
      rw [hp] at hrun
      have hrun : Bracket.run [] (ps.filterMap Piece.bracket?) = .error e := hrun.symm
      rw [hrun]
      rfl
  | ok p =>
      rw [hp] at hrun
      have hrun : Bracket.run [] (ps.filterMap Piece.bracket?) = .ok p.opened := hrun.symm
      rw [hrun]
      obtain ⟨_ | ⟨b, bs⟩, nodes⟩ := p
      · rfl
      · rfl

/-- The strict reading succeeds if all tags match on the way and no block is open at the end. -/
theorem ofPiecesStrict_eq_ok {ps : List Piece} {nodes : Template} :
    ofPiecesStrict ps = .ok nodes ↔ ps.foldlM Progress.stepStrict .start = .ok ⟨[], nodes⟩ := by
  constructor
  · intro h
    obtain ⟨⟨_ | ⟨b, bs⟩, nodes'⟩, hp, h⟩ := bind_eq_ok.1 h
    · cases h
      exact hp
    · cases h
  · exact fun h => bind_eq_ok.2 ⟨_, h, rfl⟩

/-- Where the strict reading succeeds, the lenient one gives the same template. -/
theorem ofPieces_of_ofPiecesStrict {ps : List Piece} {nodes : Template}
    (h : ofPiecesStrict ps = .ok nodes) : nodes = ofPieces ps := by
  rw [ofPieces, Progress.foldl_step_of_foldlM (ofPiecesStrict_eq_ok.1 h)]
  rfl

/-- **Strict reading accepts exactly the texts whose block tags are balanced**, gives for them the
    same template as the lenient reading, and blames the first fault of all others. When a block of
    the right kind is open further out, the words for the fault name the innermost open block and its
    line. -/
theorem parseStrict_iff_balanced (s : String) :
    ((∃ nodes, parseStrict s = .ok nodes) ↔ Bracket.Balanced (Bracket.ofText s.toList)) ∧
    (∀ nodes, parseStrict s = .ok nodes → nodes = parse s) ∧
    (∀ line e, parseStrict s = .error e ∧ e.line = line ↔
      Bracket.FirstFault (Bracket.ofText s.toList) line e) ∧
    (∀ kind line openKind openLine,
      (Imbalance.crossing kind line openKind openLine).detail
        = Imbalance.quotedTag '/' kind ++ " closes " ++ Imbalance.quotedTag '#' openKind
          ++ " opened on line " ++ toString openLine) := by
  have hv := ofPiecesStrict_eq_verdict (Piece.ofText s.toList)
  refine ⟨?_, fun nodes h => ofPieces_of_ofPiecesStrict h, fun line e => ?_, fun _ _ _ _ => rfl⟩
  · rw [Bracket.ofText, ← Bracket.verdict_eq_ok_iff, ← hv, parseStrict]
    cases ofPiecesStrict (Piece.ofText s.toList) with
    | error e => simp [Except.map]
    | ok nodes => simp [Except.map]
  · rw [Bracket.ofText, ← Bracket.verdict_eq_error_iff, ← hv, parseStrict]
    cases ofPiecesStrict (Piece.ofText s.toList) with
    | error e => simp [Except.map]
    | ok nodes => simp [Except.map]

end Template

end Stencil
