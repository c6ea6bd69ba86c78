import Mathlib.Data.List.Forall2
import Stencil.Proofs.Lines
import Stencil.Proofs.Scan
import Stencil.Proofs.Spelling

set_option autoImplicit false

/-! # Printing a template and reading it again

A text whose tags match is read back from the printed form of its tree. Printing spells each tag in
the usual way and keeps the texts between them. This could only go wrong where a tag begins, and
whether one begins in a text depends on the tag after the text no more than on there being one
(`startsTag_append`), so the tags of the printed form stand where they stood (`scan_respelled`). -/

namespace Stencil

/-! ## Tags in other spellings -/

namespace Segment

/-- If a tag begins in a text and goes on after it, then so does one with any tag after the text. -/
theorem startsTag_of_prefix {cs xs body rest : List Char} (h : '{' :: '{' :: body = cs ++ xs)
    (hne : cs ≠ []) (hbody : '}' ∉ body) (hrest : StartsTag rest) : StartsTag (cs ++ rest) := by
  obtain ⟨inner, after, -, hinner, rfl⟩ := hrest
  rcases cs with _ | ⟨c, _ | ⟨d, cs⟩⟩
  · exact absurd rfl hne
  · obtain ⟨rfl, -⟩ := List.cons.inj h
    exact ⟨'{' :: inner, after, by simp, by simpa using hinner, by simp [source]⟩
  · simp only [List.cons_append, List.cons.injEq] at h
    obtain ⟨rfl, rfl, rfl⟩ := h
    have hcs : '}' ∉ cs := fun hmem => hbody (List.mem_append_left _ hmem)
    refine ⟨cs ++ '{' :: '{' :: inner, after, by simp, ?_, by simp [source]⟩
    simp [hcs, hinner]

/-- Whether a tag begins in a text before a tag does not depend on that tag. -/
theorem startsTag_append {cs rest rest' : List Char} (h : StartsTag (cs ++ rest)) (hne : cs ≠ [])
    (hrest : StartsTag rest) (hrest' : StartsTag rest') : StartsTag (cs ++ rest') := by
  obtain ⟨body, after, hbody, hclosed, h⟩ := h
  rcases List.append_eq_append_iff.1 h with ⟨as, hsource, hafter⟩ | ⟨bs, rfl, -⟩
  · rcases as with _ | ⟨c, as⟩
    · exact ⟨body, rest', hbody, hclosed, by rw [hsource, List.append_nil]⟩
    · -- The part of the tag outside the text starts with a brace, so more than its end is outside.
      have hc : c = '{' := by
        obtain ⟨inner, last, -, -, hlast⟩ := hrest
        rw [hafter] at hlast
        exact (List.cons.inj hlast).1
      subst hc
      have hsplit : ('{' :: '{' :: body) ++ ['}', '}'] = cs ++ '{' :: as := hsource
      rcases List.append_eq_append_iff.1 hsplit with ⟨xs, -, hend⟩ | ⟨xs, hfront, -⟩
      · have hmem : '{' ∈ ['}', '}'] := by
          rw [hend]
          simp
        cases List.mem_pair.1 hmem <;> contradiction
      · exact startsTag_of_prefix hfront hne hclosed hrest'
  · exact ⟨body, bs ++ rest', hbody, hclosed, List.append_assoc _ _ _⟩

theorem Leftmost.startsTag {cs body : List Char} {ss : List Segment}
    (h : Leftmost cs (.tag body :: ss)) : StartsTag cs := by
  cases h with
  | tag hne hbody hss => exact ⟨_, _, hne, hbody, rfl⟩

/-- The same text, or a tag that is read as the same tag. -/
inductive Respells : Segment → Segment → Prop
  | text (cs : List Char) : Respells (.text cs) (.text cs)
  | tag {body other : List Char} : other ≠ [] → (Tag.read body).Spells other →
      Respells (.tag body) (.tag other)

theorem respells_of_read_eq {body other : List Char} (hne : other ≠ [])
    (h : Tag.read other = Tag.read body) : Respells (.tag body) (.tag other) :=
  .tag hne (h ▸ Tag.spells_read other)

/-- Other spellings of a tag have no closing braces either. -/
theorem not_mem_of_spells {body other : List Char} (h : (Tag.read body).Spells other)
    (hbody : '}' ∉ body) : '}' ∉ other := by
  rw [h.mem_iff rfl, ← (Tag.spells_read body).mem_iff rfl]
  exact hbody

/-- The tags of a text stay where they are if they are spelled in other ways. -/
theorem Leftmost.respelled {cs : List Char} {ss : List Segment} (h : Leftmost cs ss) :
    ∀ {ss' : List Segment}, List.Forall₂ Respells ss ss' → Leftmost (ss'.flatMap source) ss' := by
  induction h with
  | nil =>
      intro ss' hss'
      cases hss'
      exact .nil
  | tag hne hbody hss ih =>
      intro ss' hss'
      cases hss' with
      | cons hhead htail =>
          cases hhead with
          | tag hne' hspells => exact .tag hne' (not_mem_of_spells hspells hbody) (ih htail)
  | @text gap rest ss hne hgap hrest hss ih =>
      intro ss' hss'
      cases hss' with
      | @cons _ _ _ tail hhead htail =>
          cases hhead
          have htail' := ih htail
          rcases hrest with rfl | hrest
          · obtain rfl := eq_nil_of_leftmost_nil hss
            cases htail
            exact .text hne hgap (Or.inl rfl) .nil
          · obtain ⟨body, rest', rfl⟩ := hss.exists_tag hrest
            have hstarts : StartsTag (tail.flatMap source) := by
              cases htail with
              | cons hbody hrest' =>
                  cases hbody
                  exact htail'.startsTag
            -- A tag that begins in the text now would have begun there before.
            refine .text hne (fun a b hab hb hb' => ?_) (Or.inr hstarts) htail'
            exact hgap a b hab hb (startsTag_append hb' hb hstarts hrest)

theorem scan_respelled {cs : List Char} {ss : List Segment}
    (h : List.Forall₂ Respells (scan cs) ss) : scan (ss.flatMap source) = ss :=
  scan_eq_of_leftmost ((leftmost_scan cs).respelled h)

end Segment

/-! ## Printing -/

/-- A piece as it is printed. -/
def Piece.printed : Piece → List Char
  | .text cs => cs
  | .tag t _ => Template.printedTag t.written

namespace Template

mutual

theorem printedNode_unlinedNode : ∀ n : Node, printedNode (unlinedNode n) = printedNode n
  | .text s => rfl
  | .variable e line => rfl
  | .component name arguments line => rfl
  | .block kind subject line body => by
      rw [unlinedNode, printedNode, printedNode, printed_unlined body]

/-- What is printed does not depend on the lines. -/
theorem printed_unlined : ∀ nodes : List Node, printed (unlined nodes) = printed nodes
  | [] => rfl
  | n :: ns => by rw [unlined, printed, printed, printedNode_unlinedNode n, printed_unlined ns]

end

theorem printed_append (a b : Template) : printed (a ++ b) = printed a ++ printed b := by
  induction a with
  | nil => rfl
  | cons n a ih => rw [List.cons_append, printed, ih, printed, List.append_assoc]

theorem printed_add (nodes : Template) (n : Node) :
    printed (add nodes n) = printed nodes ++ printedNode n := by
  fun_induction add nodes n with
  | case1 n => simp [printed]
  | case2 s t => simp [printed, printedNode]
  | case3 m ms n _ ih => rw [printed, ih, printed, List.append_assoc]

end Template

namespace Progress

/-- The opening tags of some blocks and the nodes in them, as they are printed, outermost first. -/
def printedIn : List OpenBlock → Template → List Char
  | [], nodes => Template.printed nodes
  | b :: bs, nodes =>
    printedIn bs b.before ++ Template.printedTag ('#' :: b.kind.word ++ ' ' :: b.subject.toList) ++
      Template.printed nodes

theorem printedIn_append (bs : List OpenBlock) (nodes more : Template) :
    printedIn bs (nodes ++ more) = printedIn bs nodes ++ Template.printed more := by
  cases bs with
  | nil => exact Template.printed_append nodes more
  | cons b bs => rw [printedIn, Template.printed_append, printedIn, ← List.append_assoc]

theorem printedIn_add (bs : List OpenBlock) (nodes : Template) (n : Node) :
    printedIn bs (Template.add nodes n) = printedIn bs nodes ++ Template.printedNode n := by
  cases bs with
  | nil => exact Template.printed_add nodes n
  | cons b bs => rw [printedIn, Template.printed_add, printedIn, ← List.append_assoc]

/-- What has been read so far, as it is printed. -/
def printedSoFar (p : Progress) : List Char :=
  printedIn p.pending p.nodes

/-- Each piece adds what it is printed as. -/
theorem printedSoFar_stepStrict {p q : Progress} {piece : Piece} (hq : p.stepStrict piece = .ok q) :
    q.printedSoFar = p.printedSoFar ++ piece.printed := by
  rw [printedSoFar, printedSoFar]
  rcases piece with cs | ⟨⟨kind, subject⟩ | kind | ⟨name, arguments⟩ | e, line⟩
  case text =>
    cases hq
    rw [step, add, printedIn_add, Template.printedNode, String.toList_ofList, Piece.printed]
  case tag.component =>
    cases hq
    rw [step, add, printedIn_add, Template.printedNode, String.toList_ofList, String.toList_ofList]
    rfl
  case tag.variable =>
    cases hq
    rw [step, add, printedIn_add, Template.printedNode, String.toList_ofList]
    rfl
  case tag.opening =>
    cases hq
    simp [step, openBlock, printedIn, Template.printed, Piece.printed, Tag.written]
  case tag.closing =>
    obtain ⟨_ | ⟨b, bs⟩, nodes⟩ := p
    · cases hq
    · simp only [stepStrict, closeStrict] at hq
      split at hq
      · rename_i hkind
        subst hkind
        cases hq
        simp [OpenBlock.close, printedIn_append, printedIn, Template.printed, Template.printedNode,
          Piece.printed, Tag.written]
      · split at hq <;> cases hq

end Progress

/-- A template that is read strictly is printed as its pieces. -/
theorem Template.printed_of_ofPiecesStrict {ps : List Piece} {nodes : Template}
    (h : ofPiecesStrict ps = .ok nodes) : printed nodes = ps.flatMap Piece.printed :=
  Progress.foldlM_eq_append (fun _ _ _ => Progress.printedSoFar_stepStrict)
    (ofPiecesStrict_eq_ok.1 h)

/-! ## Segments as pieces -/

namespace Segment

/-- A segment with its tag in the usual spelling. -/
def usual : Segment → Segment
  | .text cs => .text cs
  | .tag body => .tag (' ' :: (Tag.read body).written ++ [' '])

/-- The piece that a segment is, on line zero. -/
def piece : Segment → Piece
  | .text cs => .text cs
  | .tag body => .tag (Tag.read body) 0

theorem map_unlined_ofSegments (ss : List Segment) : ∀ line,
    (Piece.ofSegments line ss).map Piece.unlined = ss.map piece := by
  induction ss with
  | nil => exact fun line => rfl
  | cons s ss ih =>
      intro line
      cases s <;> rw [Piece.ofSegments, List.map_cons, ih] <;> rfl

theorem flatMap_printed_ofSegments (ss : List Segment) : ∀ line,
    (Piece.ofSegments line ss).flatMap Piece.printed = (ss.map usual).flatMap source := by
  induction ss with
  | nil => exact fun line => rfl
  | cons s ss ih =>
      intro line
      cases s <;> rw [Piece.ofSegments, List.flatMap_cons, ih, List.map_cons, List.flatMap_cons]
      · rfl
      · simp [Piece.printed, Template.printedTag, usual, source]

theorem respells_usual (s : Segment) : Respells s s.usual := by
  cases s with
  | text cs => exact .text cs
  | tag body => exact .tag (by simp) (Tag.read body).spells_written

theorem forall₂_respells_usual (ss : List Segment) : List.Forall₂ Respells ss (ss.map usual) :=
  List.forall₂_map_right_iff.2 (List.forall₂_same.2 fun s _ => s.respells_usual)

/-- Other spellings are read as the same piece. -/
theorem piece_eq_of_respells {s s' : Segment} (h : Respells s s') : s'.piece = s.piece := by
  cases h with
  | text cs => rfl
  | @tag body other _ hspells =>
      have hproper := (Tag.read_eq_iff.1 (rfl : Tag.read body = _)).1
      rw [piece, piece, Tag.read_of_spells hproper hspells]

/-- What is the same in the usual spelling is read as the same. -/
theorem respells_of_usual_eq {s s' : Segment} (h : s.usual = s'.usual) (hs' : s' ≠ .tag []) :
    Respells s s' := by
  cases s with
  | text cs =>
      cases s' with
      | text cs' =>
          cases h
          exact .text cs
      | tag body' => cases h
  | tag body =>
      cases s' with
      | text cs' => cases h
      | tag body' =>
          have hread (b : List Char) : Tag.read (' ' :: (Tag.read b).written ++ [' ']) = Tag.read b :=
            Tag.read_of_spells (Tag.read_eq_iff.1 rfl).1 (Tag.read b).spells_written
          have hsame : Tag.read body = Tag.read body' := by
            rw [← hread body, ← hread body', Segment.tag.inj h]
          exact respells_of_read_eq (fun hnil => hs' (congrArg _ hnil)) hsame.symm

theorem Leftmost.ne_tag_nil {cs : List Char} {ss : List Segment} (h : Leftmost cs ss) :
    ∀ s ∈ ss, s ≠ .tag [] := by
  induction h with
  | nil => exact fun s hs => nomatch hs
  | tag hne _ _ ih => exact List.forall_mem_cons.2 ⟨fun h => hne (Segment.tag.inj h), ih⟩
  | text _ _ _ _ ih => exact List.forall_mem_cons.2 ⟨nofun, ih⟩

/-- Texts whose tags are the same in the usual spelling are read as the same. -/
theorem forall₂_respells_of_usual_eq {ss ss' : List Segment} (h : ss.map usual = ss'.map usual)
    (hss' : ∀ s ∈ ss', s ≠ .tag []) : List.Forall₂ Respells ss ss' := by
  rw [← List.forall₂_eq_eq_eq, List.forall₂_map_left_iff, List.forall₂_map_right_iff] at h
  induction h with
  | nil => exact .nil
  | cons hs _ ih =>
      obtain ⟨hhead, htail⟩ := List.forall_mem_cons.1 hss'
      exact .cons (respells_of_usual_eq hs hhead) (ih htail)

theorem map_piece_of_respells {ss ss' : List Segment} (h : List.Forall₂ Respells ss ss') :
    ss'.map piece = ss.map piece := by
  induction h with
  | nil => rfl
  | cons hs _ ih => rw [List.map_cons, List.map_cons, piece_eq_of_respells hs, ih]

end Segment

namespace Template

open Segment

/-- What strict reading accepts is printed with its tags in the usual spelling. -/
theorem printed_of_parseStrict {s : String} {nodes : Template} (h : parseStrict s = .ok nodes) :
    printed nodes = ((scan s.toList).map usual).flatMap source := by
  rw [printed_of_ofPiecesStrict h, Piece.ofText, flatMap_printed_ofSegments]

theorem map_unlined_of_respells {s t : String}
    (h : List.Forall₂ Respells (scan s.toList) (scan t.toList)) :
    (Piece.ofText t.toList).map Piece.unlined = (Piece.ofText s.toList).map Piece.unlined := by
  rw [Piece.ofText, Piece.ofText, map_unlined_ofSegments, map_unlined_ofSegments,
    map_piece_of_respells h]

/-- Texts with the same tags in other spellings are read as the same tree. -/
theorem parse_of_respells {s t : String}
    (h : List.Forall₂ Respells (scan s.toList) (scan t.toList)) :
    unlined (parse t) = unlined (parse s) := by
  rw [parse, parse, ← ofPieces_unlined, ← ofPieces_unlined, map_unlined_of_respells h]

/-- If one of them is accepted by strict reading, then the other is. -/
theorem parseStrict_of_respells {s t : String}
    (h : List.Forall₂ Respells (scan s.toList) (scan t.toList))
    (hs : ∃ nodes, parseStrict s = .ok nodes) : parseStrict t = .ok (parse t) := by
  obtain ⟨nodes, hs⟩ := hs
  have hnodes := ofPiecesStrict_unlined.2 ⟨nodes, hs, rfl⟩
  rw [← map_unlined_of_respells h, ofPiecesStrict_unlined] at hnodes
  obtain ⟨other, hother, -⟩ := hnodes
  obtain rfl : other = parse t := ofPieces_of_ofPiecesStrict hother
  exact hother

/-- Texts that are read as the same tree have the same tags in other spellings. -/
theorem respells_of_parseStrict {s t : String} {nodes other : Template}
    (hs : parseStrict s = .ok nodes) (ht : parseStrict t = .ok other)
    (hsame : unlined other = unlined nodes) :
    List.Forall₂ Respells (scan s.toList) (scan t.toList) := by
  have hprinted : printed nodes = printed other := by
    rw [← printed_unlined nodes, ← hsame, printed_unlined]
  -- The printed form is the same, and it is split in one way only.
  have hscan : (scan s.toList).map usual = (scan t.toList).map usual := by
    rw [← scan_respelled (forall₂_respells_usual _), ← printed_of_parseStrict hs, hprinted,
      printed_of_parseStrict ht, scan_respelled (forall₂_respells_usual _)]
  exact forall₂_respells_of_usual_eq hscan (leftmost_scan _).ne_tag_nil

/-- **A printed tree is read back.** Spelling tags in other ways makes no difference to the tree of
    a text but for the lines. A text that strict reading accepts is parsed to a tree whose printed form
    is accepted as well and parsed to the same tree, apart from the lines of its tags. The accepted
    texts with this tree are just those that are made of the same texts with the same tags between
    them, in whatever spelling. -/
theorem parse_printed (s : String) :
    (∀ ss, List.Forall₂ Respells (scan s.toList) ss →
      unlined (parse (String.ofList (ss.flatMap source))) = unlined (parse s)) ∧
    ((∃ nodes, parseStrict s = .ok nodes) →
      let again := String.ofList (printed (parse s))
      parseStrict again = .ok (parse again) ∧ unlined (parse again) = unlined (parse s) ∧
      ∀ t : String, (parseStrict t = .ok (parse t) ∧ unlined (parse t) = unlined (parse s)) ↔
        ∃ ss, List.Forall₂ Respells (scan s.toList) ss ∧ t.toList = ss.flatMap source) := by
  have hscan : ∀ t : String, ∀ ss, List.Forall₂ Respells (scan s.toList) ss →
      t.toList = ss.flatMap source → List.Forall₂ Respells (scan s.toList) (scan t.toList) := by
    intro t ss hss ht
    rw [ht, scan_respelled hss]
    exact hss
  refine ⟨fun ss hss => parse_of_respells (hscan _ ss hss String.toList_ofList), fun haccepted => ?_⟩
  intro again
  have hs : parseStrict s = .ok (parse s) := by
    obtain ⟨nodes, hs⟩ := haccepted
    obtain rfl : nodes = parse s := ofPieces_of_ofPiecesStrict hs
    exact hs
  have hagain : again.toList = ((scan s.toList).map usual).flatMap source := by
    rw [String.toList_ofList, printed_of_parseStrict hs]
  have husual := hscan again _ (forall₂_respells_usual _) hagain
  refine ⟨parseStrict_of_respells husual haccepted, parse_of_respells husual, fun t => ?_⟩
  constructor
  · rintro ⟨ht, htree⟩
    exact ⟨_, respells_of_parseStrict hs ht htree, (scan_source _).symm⟩
  · rintro ⟨ss, hss, ht⟩
    have h := hscan t ss hss ht
    exact ⟨parseStrict_of_respells h haccepted, parse_of_respells h⟩

/-- Braces around a tag, a component with its arguments right after its name, and other blanks. -/
theorem parse_printed_braces :
    let s := String.ofList ([.tag "#if  a".toList, .text ['{', '{', '}'], .tag ['{', 'x'],
      .tag "component:my-card a=1".toList, .text ['}'], .tag "/if".toList].flatMap source)
    let t := String.ofList ([.tag "\n#if a ".toList, .text ['{', '{', '}'], .tag [' ', '{', 'x'],
      .tag "component:my -card a=1".toList, .text ['}'], .tag "/if ".toList].flatMap source)
    let again := String.ofList (printed (parse s))
    (∃ nodes, parseStrict s = .ok nodes) ∧
    parseStrict again = .ok (parse again) ∧ unlined (parse again) = unlined (parse s) ∧
    parseStrict t = .ok (parse t) ∧ unlined (parse t) = unlined (parse s) := by
  intro s t again
  have hs : ∃ nodes, parseStrict s = .ok nodes := exists_eq_ok_of_isOk (by decide +kernel)
  have hscan : scan s.toList = [.tag "#if  a".toList, .text ['{', '{', '}'], .tag ['{', 'x'],
      .tag "component:my-card a=1".toList, .text ['}'], .tag "/if".toList] := by decide +kernel
  have hrespells : List.Forall₂ Respells (scan s.toList) [.tag "\n#if a ".toList,
      .text ['{', '{', '}'], .tag [' ', '{', 'x'], .tag "component:my -card a=1".toList,
      .text ['}'], .tag "/if ".toList] := by
    rw [hscan]
    exact .cons (respells_of_read_eq (by decide) (by decide +kernel)) (.cons (.text _)
      (.cons (respells_of_read_eq (by decide) (by decide +kernel))
        (.cons (respells_of_read_eq (by decide) (by decide +kernel)) (.cons (.text _)
          (.cons (respells_of_read_eq (by decide) (by decide +kernel)) .nil)))))
  obtain ⟨haccepted, hsame, hiff⟩ := (parse_printed s).2 hs
  obtain ⟨ht, htree⟩ := (hiff t).2 ⟨_, hrespells, String.toList_ofList⟩
  exact ⟨hs, haccepted, hsame, ht, htree⟩

end Template

end Stencil
