import Stencil.Proofs.Course
import Stencil.Proofs.Scan
import Stencil.Proofs.Trim
import Stencil.Validation.Basic

set_option autoImplicit false

/-! # Unknown names are found beforehand

While a page is rendered, tags with names that are not registered are told of. A check finds them
in the template, without any data: a visit to a node tells exactly the unknown names that the check
finds in that node (`filterMap_concern?_render`), whatever the scope is, and only nodes of the
template are visited. This holds for pages that cannot be completed as well, so the notices are
followed through the render here and not through its page (`exists_visit_of_mem_log`). -/

namespace Stencil

open Telling

/-! ## Where a notice comes from -/

namespace Telling

variable {ε α β : Type} {notice : Notice}

/-- What is told is told by the first step, or by the next one after the first gave a value. -/
theorem mem_log_bind {t : Telling ε α} {next : α → Telling ε β} (h : notice ∈ (t >>= next).log) :
    notice ∈ t.log ∨ ∃ x, t.outcome = .ok x ∧ notice ∈ (next x).log := by
  rcases t with ⟨log, e | x⟩
  · exact Or.inl h
  · rw [ok_bind] at h
    exact (List.mem_append.1 h).imp_right fun h => ⟨x, rfl, h⟩

theorem log_effect (t : Telling ε α) : t.effect.log = t.log :=
  bind_log_of_quiet fun _ => rfl

theorem mem_log_mapM {t : α → Telling ε β} {xs : List α} (h : notice ∈ (xs.mapM t).log) :
    ∃ x ∈ xs, notice ∈ (t x).log := by
  induction xs with
  | nil => cases h
  | cons x xs ih =>
      rw [List.mapM_cons] at h
      rcases mem_log_bind h with h | ⟨y, -, h⟩
      · exact ⟨x, List.mem_cons_self, h⟩
      · rcases mem_log_bind h with h | ⟨ys, -, h⟩
        · obtain ⟨z, hz, h⟩ := ih h
          exact ⟨z, List.mem_cons_of_mem x hz, h⟩
        · cases h

end Telling

theorem mem_log_forItems {text : Nat → Value → Traced String} {notice : Notice}
    {items : List Value} : ∀ {i : Nat}, notice ∈ (forItems text i items).log →
      ∃ item j, (item, j) ∈ items.zipIdx i ∧ notice ∈ (text j item).log := by
  induction items with
  | nil => exact fun h => nomatch h
  | cons item items ih =>
      intro i h
      rw [forItems] at h
      rw [List.zipIdx_cons]
      rcases mem_log_bind h with h | ⟨s, -, h⟩
      · exact ⟨item, i, List.mem_cons_self, h⟩
      · rcases mem_log_bind h with h | ⟨rest, -, h⟩
        · obtain ⟨item', j, hj, h⟩ := ih h
          exact ⟨item', j, List.mem_cons_of_mem _ hj, h⟩
        · cases h

namespace Template

variable [Attributes] {f : Functions} {notice : Notice}

/-- Rendering nodes tells only what rendering one of them tells. -/
theorem exists_node_of_mem_log {nodes : Template} {scope : Scope}
    (h : notice ∈ (render f nodes scope).log) :
    ∃ n ∈ nodes, notice ∈ (renderNode f n scope).log := by
  -- Only what is told counts, and that is what the nodes tell, stage by stage.
  rw [← log_effect, effect_render, log_effect] at h
  obtain ⟨n, hn, h⟩ := mem_log_mapM h
  obtain ⟨stage, -, hn⟩ := List.mem_flatMap.1 hn
  exact ⟨n, List.mem_of_mem_filter hn, h⟩

mutual

theorem exists_visit_of_mem_log_node : ∀ (n : Node), (∀ m ∈ walkNode n, m.Readable) →
    ∀ scope, notice ∈ (renderNode f n scope).log →
      ∃ v ∈ courseOf f n scope, notice ∈ (v.render f).log
  | .text s, _, scope => fun h => by
      rw [renderNode] at h
      cases h
  | .variable e line, _, scope => fun h => by
      rw [renderNode] at h
      exact ⟨_, List.mem_singleton_self _, h⟩
  | .component name arguments line, _, scope => fun h => by
      rw [renderNode] at h
      exact ⟨_, List.mem_singleton_self _, h⟩
  | .block .conditional subject line body, hread, scope => fun h => by
      have hsubject : Expression.read subject.toList ≠ .blank :=
        hread _ (mem_walkNode_self _) _ rfl
      rw [renderNode, Functions.decides_bind hsubject] at h
      rw [courseOf]
      rcases mem_log_bind h with h | ⟨met, -, h⟩
      · have hvisit : (Visit.render f ⟨.block .conditional subject line body, scope⟩).log
            = (f.decides scope subject.toList).log := bind_log_of_quiet fun _ => rfl
        exact ⟨_, List.mem_cons_self, hvisit ▸ h⟩
      · cases hmet : (f.valueOf scope subject.toList).isTruthy with
        | false =>
            rw [hmet] at h
            cases h
        | true =>
            rw [hmet] at h
            obtain ⟨n, hn, h⟩ := exists_node_of_mem_log h
            obtain ⟨v, hv, h⟩ :=
              exists_visit_of_mem_log_nodes body (forall_mem_body hread) scope n hn h
            exact ⟨v, List.mem_cons_of_mem _ hv, h⟩
  | .block .loop subject line body, hread, scope => fun h => by
      rw [renderNode] at h
      rw [courseOf]
      obtain ⟨item, i, hi, h⟩ := mem_log_forItems h
      obtain ⟨n, hn, h⟩ := exists_node_of_mem_log h
      obtain ⟨v, hv, h⟩ := exists_visit_of_mem_log_nodes body (forall_mem_body hread) _ n hn h
      exact ⟨v, List.mem_cons_of_mem _ (List.mem_flatMap.2 ⟨(item, i), hi, hv⟩), h⟩

theorem exists_visit_of_mem_log_nodes : ∀ (nodes : List Node),
    (∀ n ∈ walk nodes, n.Readable) →
    ∀ scope, ∀ n ∈ nodes, notice ∈ (renderNode f n scope).log →
      ∃ v ∈ course f nodes scope, notice ∈ (v.render f).log
  | [], _, scope => fun n hn => nomatch hn
  | m :: ms, hread, scope => fun n hn h => by
      rw [walk, List.forall_mem_append] at hread
      rw [course]
      rcases List.mem_cons.1 hn with hm | hn
      · rw [hm] at h
        obtain ⟨v, hv, h⟩ := exists_visit_of_mem_log_node m hread.1 scope h
        exact ⟨v, List.mem_append_left _ hv, h⟩
      · obtain ⟨v, hv, h⟩ := exists_visit_of_mem_log_nodes ms hread.2 scope n hn h
        exact ⟨v, List.mem_append_right _ hv, h⟩

end

/-- Rendering tells only what its visits tell, even if it ends early. -/
theorem exists_visit_of_mem_log {nodes : Template}
    (hread : ∀ n ∈ walk nodes, n.Readable)
    {scope : Scope} (h : notice ∈ (render f nodes scope).log) :
    ∃ v ∈ course f nodes scope, notice ∈ (v.render f).log := by
  obtain ⟨n, hn, h⟩ := exists_node_of_mem_log h
  exact exists_visit_of_mem_log_nodes nodes hread scope n hn h

end Template

/-! ## Notices and concerns -/

/-- The line of the tag that a node comes from. -/
def Node.line? : Node → Option Nat
  | .text _ => none
  | .variable _ line => some line
  | .component _ _ line => some line
  | .block _ _ line _ => some line

/-- The concern that foretells a notice of an unknown name, for a tag on a line. -/
def Notice.concern? (line : Nat) : Notice → Option Concern
  | .unknownHelper name => some (.unknownHelper line name)
  | .unknownComponent name => some (.unknownComponent line name)
  | _ => none

/-- Whether a notice is about an unknown name. -/
def Notice.isUnknownName : Notice → Bool
  | .unknownHelper _ => true
  | .unknownComponent _ => true
  | _ => false

/-- Whether a concern is about an unknown name. -/
def Concern.isUnknownName : Concern → Bool
  | .unknownHelper _ _ => true
  | .unknownComponent _ _ => true
  | _ => false

namespace Functions

variable [Attributes] (f : Functions) (scope : Scope)

theorem filterMap_concern?_evaluate (e : String) (line : Nat) :
    (f.evaluate scope e.toList).log.filterMap (Notice.concern? line)
      = unknownIn.unknownHelper f e line := by
  rw [unknownIn.unknownHelper]
  unfold evaluate
  cases Expression.read e.toList with
  | path cs => rfl
  | blank => rfl
  | call helper arguments =>
      simp only [Registry.contains_names]
      cases f.helpers.get? (String.ofList helper) with
      | none => rfl
      | some run =>
          dsimp only
          cases run (arguments.map (Argument.evaluate scope.value)) scope <;> rfl

theorem filterMap_concern?_expand (name : String) (arguments : List Char)
    (line : Nat) :
    (f.expand scope name arguments).log.filterMap (Notice.concern? line)
      = if f.components.names.contains name then [] else [.unknownComponent line name] := by
  unfold expand
  rw [Registry.contains_names]
  cases f.components.get? name with
  | none => rfl
  | some run =>
      dsimp only
      cases run f.helpers (Argument.keywordValues scope.value arguments) scope <;> rfl

end Functions

section

variable [Attributes]

/-- A visit to a node tells exactly the unknown names that the check finds in the node. -/
theorem Visit.filterMap_concern?_render (f : Functions) {v : Visit} {line : Nat}
    (hline : v.node.line? = some line) :
    (v.render f).log.filterMap (Notice.concern? line) = f.unknownIn v.node := by
  rw [log_render]
  obtain ⟨n, scope⟩ := v
  rcases n with t | ⟨e, l⟩ | ⟨name, arguments, l⟩ | ⟨_ | _, subject, l, body⟩
  · cases hline
  · obtain rfl := Option.some.inj hline
    exact f.filterMap_concern?_evaluate scope e l
  · obtain rfl := Option.some.inj hline
    exact f.filterMap_concern?_expand scope name arguments.toList l
  · obtain rfl := Option.some.inj hline
    exact f.filterMap_concern?_evaluate scope subject l
  · rfl

/-- Every unknown name that a visit tells is among some concerns, with the line of its tag. -/
structure Visit.Foreseen (f : Functions) (concerns : List Concern) (v : Visit) :
    Prop where
  helper (name : String) : .unknownHelper name ∈ (v.render f).log →
    ∃ line, v.node.line? = some line ∧ .unknownHelper line name ∈ concerns
  component (name : String) : .unknownComponent name ∈ (v.render f).log →
    ∃ line, v.node.line? = some line ∧ .unknownComponent line name ∈ concerns

/-- What tells something is a tag. -/
theorem Visit.exists_line?_of_mem_log {f : Functions} {v : Visit} {notice : Notice}
    (h : notice ∈ (v.render f).log) : ∃ line, v.node.line? = some line := by
  obtain ⟨n, scope⟩ := v
  cases n with
  | text s => cases h
  | _ => exact ⟨_, rfl⟩

theorem Visit.exists_line?_of_unknownIn {f : Functions} {concerns : List Concern}
    {v : Visit} (h : ∀ c ∈ f.unknownIn v.node, c ∈ concerns) {notice : Notice}
    (hnotice : notice ∈ (v.render f).log) :
    ∃ line, v.node.line? = some line ∧ ∀ c ∈ notice.concern? line, c ∈ concerns := by
  obtain ⟨line, hline⟩ := exists_line?_of_mem_log hnotice
  rw [← filterMap_concern?_render f hline] at h
  exact ⟨line, hline, fun c hc => h c (List.mem_filterMap.2 ⟨notice, hnotice, hc⟩)⟩

/-- What is unknown in the tag of a visit is all that the visit can tell of. -/
theorem Visit.foreseen_of_unknownIn {f : Functions} {concerns : List Concern}
    {v : Visit} (h : ∀ c ∈ f.unknownIn v.node, c ∈ concerns) : v.Foreseen f concerns where
  helper name hname := by
    obtain ⟨line, hline, hc⟩ := exists_line?_of_unknownIn h hname
    exact ⟨line, hline, hc _ rfl⟩
  component name hname := by
    obtain ⟨line, hline, hc⟩ := exists_line?_of_unknownIn h hname
    exact ⟨line, hline, hc _ rfl⟩

/-- If nothing tells of an unknown name beforehand, nothing does later. -/
theorem Visit.Foreseen.isUnknownName {f : Functions} {concerns : List Concern}
    {v : Visit}
    (hv : v.Foreseen f concerns) (h : ∀ c ∈ concerns, c.isUnknownName = false) {notice : Notice}
    (hnotice : notice ∈ (v.render f).log) : notice.isUnknownName = false := by
  cases notice with
  | unknownHelper name =>
      obtain ⟨line, -, hc⟩ := hv.helper name hnotice
      cases h _ hc
  | unknownComponent name =>
      obtain ⟨line, -, hc⟩ := hv.component name hnotice
      cases h _ hc
  | _ => rfl

end

/-! ## What the check finds -/

/-- Whether a problem is that the tags of a template do not match. -/
def Problem.isSyntax : Problem → Bool
  | .malformed (.imbalance _) => true
  | .openDelimiter _ => true
  | _ => false

theorem Functions.unknownIn_of_line? {f : Functions} {n : Node} (h : n.line? = none) :
    f.unknownIn n = [] := by
  cases n with
  | text s => rfl
  | _ => cases h

theorem Segment.scan_of_not_mem {cs : List Char} (hne : cs ≠ []) (h : '{' ∉ cs) :
    scan cs = [.text cs] := by
  have hgap : ∀ a b, cs = a ++ b → b ≠ [] → ¬ StartsTag (b ++ []) := by
    rintro a b rfl - ⟨body, rest, -, -, hb⟩
    rw [List.append_nil] at hb
    rw [hb] at h
    simp [source] at h
  have hend : scan [] = [] := by rw [scan]
  have hscan := scan_gap hne hgap hend fun _ _ => (List.cons_ne_nil _ _).symm
  rwa [List.append_nil] at hscan

/-- A text without opening braces has no tags. -/
theorem Template.line?_of_not_mem {s : String} (h : '{' ∉ s.toList) :
    ∀ n ∈ walk (parse s), n.line? = none := by
  intro n hn
  rw [parse, Piece.ofText] at hn
  by_cases hne : s.toList = []
  · rw [hne, Segment.scan] at hn
    cases hn
  · rw [Segment.scan_of_not_mem hne h] at hn
    obtain rfl := List.mem_singleton.1 hn
    rfl

namespace Engine

/-- If the tags of a text with an opening brace match, nothing is wrong with it as a template. -/
theorem syntaxProblems_eq_nil {text : String} (hmem : '{' ∈ text.toList)
    (h : ∀ p ∈ syntaxProblems text, p.isSyntax = false) : syntaxProblems text = [] := by
  rw [syntaxProblems, List.forall_mem_append] at h
  have hfault : Template.fault? text = none := by
    rcases hcases : Template.fault? text with _ | (_ | i)
    · rfl
    · have hblank : Text.trim text.toList = [] := by
        by_contra hne
        rw [Template.fault?, if_neg hne] at hcases
        split at hcases <;> cases hcases
      cases Text.trim_eq_nil_iff.1 hblank _ hmem
    · cases h.1 (.malformed (.imbalance i)) (by simp [hcases])
  have hopen : Template.openDelimiterLines text = [] := by
    refine List.eq_nil_iff_forall_not_mem.2 fun line hline => ?_
    cases h.2 (.openDelimiter line) (List.mem_map_of_mem hline)
  rw [syntaxProblems, hfault, hopen]
  rfl

/-- The check finds the unknown names in all nodes of a template whose tags match. -/
theorem mem_concerns_of_unknownIn {e : Engine} {strictness : Strictness} {text : String}
    {expected : List String} {limit : Option Int} (hstrictness : strictness ≠ .permissive)
    (hmatched : ∀ p ∈ (e.check strictness text expected limit).problems, p.isSyntax = false)
    {n : Node} (hn : n ∈ Template.walk (Template.parse text)) {c : Concern}
    (hc : c ∈ e.functions.unknownIn n) : c ∈ (e.check strictness text expected limit).concerns := by
  -- Only a text with a tag has unknown names in it, and such a text is not blank.
  have hmem : '{' ∈ text.toList := by
    by_contra hmem
    rw [Functions.unknownIn_of_line? (Template.line?_of_not_mem hmem n hn)] at hc
    cases hc
  have hnonempty : ¬ text.isEmpty := by
    rw [String.isEmpty_iff]
    rintro rfl
    cases hmem
  have hleast : Strictness.rank .standard ≤ strictness.rank := by
    cases strictness with
    | permissive => exact absurd rfl hstrictness
    | standard => exact Nat.le_refl _
    | strict => exact Nat.le_succ _
  rw [check, if_neg hnonempty] at hmatched ⊢
  have hsound : syntaxProblems text = [] := by
    refine syntaxProblems_eq_nil hmem fun p hp => hmatched p ?_
    exact List.mem_append_left _ (List.mem_append_right _ hp)
  have hfound : c ∈ (Template.walk (Template.parse text)).flatMap e.functions.unknownIn :=
    List.mem_flatMap.2 ⟨n, hn, hc⟩
  simp only [hsound, List.isEmpty_nil, if_true, whenAtLeast, hleast, List.mem_append]
  exact Or.inl (Or.inl (Or.inl (Or.inl (Or.inr hfound))))

/-! ## Renders -/

/-- Before a page is rendered, at most its data are told of. -/
theorem isUnknownName_of_mem_log_scope {e : Engine} {data options : Value} {notice : Notice}
    (h : notice ∈ (e.scope data options).log) : notice.isUnknownName = false := by
  have hdata : ∀ n ∈ (dataEntries data).log, n.isUnknownName = false := by
    intro n hn
    unfold dataEntries at hn
    split at hn
    · cases hn
    · cases hn
    · split at hn
      · cases hn
      · rw [List.mem_singleton.1 hn]
        rfl
  rcases mem_log_bind h with h | ⟨entries, -, h⟩
  · exact hdata _ h
  · rcases mem_log_bind h with h | ⟨options, -, h⟩
    · cases h
    · cases h

/-- An unknown name that is told while a text is rendered is told by a visit. -/
theorem exists_visit_of_mem_log_render [Attributes] {e : Engine} {template : String}
    {data options : Value}
    {notice : Notice} (h : notice ∈ (e.render (.str template) data options).2.log)
    (hname : notice.isUnknownName = true) :
    ∃ scope, (e.scope data options).outcome = .ok scope ∧
      ∃ v ∈ Template.course e.functions (Template.parse (e.source template)) scope,
        notice ∈ (v.render e.functions).log := by
  rw [render_str_snd] at h
  rcases mem_log_bind h with h | ⟨scope, hscope, h⟩
  · rw [isUnknownName_of_mem_log_scope h] at hname
    cases hname
  · exact ⟨scope, hscope, Template.exists_visit_of_mem_log (Template.readable_parse _) h⟩

/-- **Unknown names are found beforehand.** If a check that is not permissive finds that the tags of a
    template match, it foresees the unknown names that are told while pages of the template are
    rendered, with whatever data and options: each is told by the visit to a tag, and the check has
    found this name on the line of this tag. So nothing is told of unknown names if the check has no
    concern about one. A text that is not the name of a template stands for itself. -/
theorem check_foresees [Attributes] (e : Engine) (strictness : Strictness) (template : String)
    (expected : List String) (limit : Option Int) (hstrictness : strictness ≠ .permissive)
    (hmatched : ∀ p ∈ (e.check strictness (e.source template) expected limit).problems,
      p.isSyntax = false) (data options : Value) :
    let concerns := (e.check strictness (e.source template) expected limit).concerns
    let nodes := Template.parse (e.source template)
    let told := (e.render (.str template) data options).2.log
    (∀ notice ∈ told, notice.isUnknownName = true →
      ∃ scope, (e.scope data options).outcome = .ok scope ∧
        ∃ v ∈ Template.course e.functions nodes scope, notice ∈ (v.render e.functions).log) ∧
    (∀ scope, ∀ v ∈ Template.course e.functions nodes scope, v.Foreseen e.functions concerns) ∧
    ((∀ c ∈ concerns, c.isUnknownName = false) → ∀ notice ∈ told, notice.isUnknownName = false) := by
  intro concerns nodes told
  have hforeseen : ∀ scope, ∀ v ∈ Template.course e.functions nodes scope,
      v.Foreseen e.functions concerns := by
    intro scope v hv
    refine Visit.foreseen_of_unknownIn fun c hc => ?_
    exact mem_concerns_of_unknownIn hstrictness hmatched
      (Template.mem_walk_of_mem_course nodes scope v hv) hc
  refine ⟨fun notice h hname => exists_visit_of_mem_log_render h hname, hforeseen,
    fun hconcerns notice h => ?_⟩
  by_contra hname
  obtain ⟨scope, -, v, hv, h⟩ := exists_visit_of_mem_log_render h (eq_true_of_ne_false hname)
  exact hname ((hforeseen scope v hv).isUnknownName hconcerns h)

/-- A helper and a component that are unknown, in a loop and in a condition that is not met. -/
theorem check_foresees_loop :
    let e := standard 1 []
    let template := String.ofList (Template.printed [
      .text "a\n", .block .loop "x s" 1 [.component "card" "" 1, .variable "'shout' this" 1],
      .block .conditional "any x" 1 [.variable "x" 1]])
    let report := e.check .standard (e.source template) [] none
    let told := (e.render (.str template)
      (.map (Entries.ofFields [("x s", .list [.int 1, .int 2])])) .null).2.log
    (∀ p ∈ report.problems, p.isSyntax = false) ∧
    .unknownHelper "'shout'" ∈ told ∧ .unknownComponent "card" ∈ told ∧
    (∃ line, .unknownHelper line "'shout'" ∈ report.concerns) ∧
    ∃ line, .unknownComponent line "card" ∈ report.concerns := by
  intro e template report told
  have hmatched : ∀ p ∈ report.problems, p.isSyntax = false := by decide +kernel
  have hhelper : .unknownHelper "'shout'" ∈ told := by decide +kernel
  have hcomponent : .unknownComponent "card" ∈ told := by decide +kernel
  obtain ⟨hvisit, hforeseen, -⟩ :=
    check_foresees e .standard template [] none (by decide) hmatched
      (.map (Entries.ofFields [("x s", .list [.int 1, .int 2])])) .null
  obtain ⟨scope, -, v, hv, hname⟩ := hvisit _ hhelper rfl
  obtain ⟨line, -, hline⟩ := (hforeseen scope v hv).helper _ hname
  obtain ⟨scope', -, v', hv', hname'⟩ := hvisit _ hcomponent rfl
  obtain ⟨line', -, hline'⟩ := (hforeseen scope' v' hv').component _ hname'
  exact ⟨hmatched, hhelper, hcomponent, ⟨line, hline⟩, ⟨line', hline'⟩⟩

end Engine

end Stencil
