import Stencil.Engine.Basic
import Stencil.Proofs.Lookup
import Stencil.Proofs.StagedCourse

set_option autoImplicit false

/-! # What names stand for

Rendering a page looks names up, and calls functions, in the scopes of its visits only, and in each
of these scopes it is known what every name stands for: `Scope.Bound` says it for a scope inside of
some loops. It holds of the scope of a page whatever the data are (`bound_pageScope`), and the scope
of a loop's item keeps it (`Scope.Bound.atItem`); so it holds of every scope that rendering gets to
(`render_bound`). -/

namespace Stencil

/-! ## Bindings over a scope -/

namespace Scope

variable {s : Scope} {fields : List (String × Value)}

theorem get?_child_of_ne {key : Value} (h : ∀ field ∈ fields, key ≠ .str field.1) :
    (s.child (.ofFields fields)).get? key = s.get? key := by
  induction fields generalizing s with
  | nil => rfl
  | cons field fields ih =>
      obtain ⟨hfield, hfields⟩ := List.forall_mem_cons.1 h
      exact (@ih ⟨s.entries.insert (.str field.1) field.2⟩ hfields).trans
        (Entries.get?_insert_of_ne hfield _ _)

theorem get?_child_str (name : String) :
    (s.child (.ofFields fields)).get? (.str name)
      = (Entries.field? (Entries.ofFields fields).reverse name).or (s.get? (.str name)) :=
  Entries.field?_update _ name s.entries

/-- The names of the registries and of the options. -/
def reservedNames : List String := [helpersKey, componentsKey, optionsKey]

/-- No reserved name is one of a loop. -/
theorem reserved_ne_loopName {a b : String} (ha : a ∈ reservedNames) (hb : b ∈ loopNames) :
    Value.str a ≠ .str b := by
  have hne : ∀ a ∈ reservedNames, ∀ b ∈ loopNames, a ≠ b := by decide
  exact fun h => hne a ha b hb (Value.str.inj h)

end Scope

/-! ## Iterations -/

/-- One round of a loop: the item, its place and the number of the items. -/
structure Iteration where
  item : Value
  index : Nat
  length : Nat

namespace Iteration

/-- What the names of a loop stand for in a round. -/
def value? (it : Iteration) : String → Option Value
  | "this" => some it.item
  | "@index" => some (.int it.index)
  | "@first" => some (.bool (it.index = 0))
  | "@last" => some (.bool (it.index + 1 = it.length))
  | "@odd" => some (.bool (it.index % 2 = 1))
  | "@even" => some (.bool (it.index % 2 = 0))
  | _ => none

end Iteration

namespace Scope

/-- A loop binds its own names only. -/
theorem get?_atItem_of_ne {s : Scope} {key : Value} (h : ∀ name ∈ loopNames, key ≠ .str name)
    (item : Value) (i n : Nat) : (s.atItem item i n).get? key = s.get? key :=
  get?_child_of_ne fun _ hfield => h _ (List.mem_map_of_mem (f := Prod.fst) hfield)

/-- In the body of a loop, the names of the loop stand for what belongs to the round. -/
theorem get?_atItem_loopName {s : Scope} {name : String} (h : name ∈ loopNames) (item : Value)
    (i n : Nat) : (s.atItem item i n).get? (.str name) = Iteration.value? ⟨item, i, n⟩ name := by
  have hfirst : ((i : Int) == 0) = decide (i = 0) := by
    rw [Bool.eq_iff_iff, beq_iff_eq, decide_eq_true_eq]
    omega
  have hlast : ((i : Int) == (n : Int) - 1) = decide (i + 1 = n) := by
    rw [Bool.eq_iff_iff, beq_iff_eq, decide_eq_true_eq]
    omega
  have hplace (r : Nat) : ((i : Int).emod 2 == r) = decide (i % 2 = r) := by
    rw [Bool.eq_iff_iff, beq_iff_eq, decide_eq_true_eq]
    show (i : Int) % 2 = r ↔ i % 2 = r
    omega
  have hodd : ((i : Int).emod 2 == 1) = decide (i % 2 = 1) := hplace 1
  have heven : ((i : Int).emod 2 == 0) = decide (i % 2 = 0) := hplace 0
  rw [atItem, loopBindings, get?_child_str, hfirst, hlast, hodd, heven]
  simp only [loopNames, List.mem_cons, List.not_mem_nil, or_false] at h
  rcases h with rfl | rfl | rfl | rfl | rfl | rfl <;>
    simp [Entries.ofFields, Entries.field?, Entries.get?_cons, Value.equal_str, Iteration.value?]

/-! ## What each name stands for -/

/-- What every name stands for in a scope of a page, inside of some rounds of loops, innermost first.
    Besides the reserved names and the names of loops, keys have the values that the data give
    them. -/
structure Bound (e : Engine) (data given : Entries) (its : List Iteration) (s : Scope) : Prop where
  helpers : s.get? (.str helpersKey) = some (registered .helper e.functions.helpers)
  components : s.get? (.str componentsKey) = some (registered .component e.functions.components)
  options : s.get? (.str optionsKey) = some (.map (e.defaultOptions.update given))
  inLoop : ∀ it outer, its = it :: outer → ∀ name ∈ loopNames,
    s.get? (.str name) = it.value? name
  outside : its = [] → ∀ name ∈ loopNames, s.get? (.str name) = data.get? (.str name)
  other : ∀ key, (∀ name ∈ reservedNames ++ loopNames, key ≠ .str name) → s.get? key = data.get? key

variable {e : Engine} {data given : Entries} {its : List Iteration} {s : Scope}

/-- The scope of a page has the registries and the options under their names, whatever the data have
    there, and the data under all others. -/
theorem bound_pageScope (e : Engine) (data given : Entries) :
    (e.pageScope data given).Bound e data given [] := by
  have hother {key : Value} (h : ∀ name ∈ reservedNames, key ≠ .str name) :
      (e.pageScope data given).get? key = data.get? key :=
    get?_child_of_ne fun _ hfield => h _ (List.mem_map_of_mem (f := Prod.fst) hfield)
  constructor
  case helpers | components | options =>
    rw [Engine.pageScope, root, get?_child_str]
    simp [Entries.ofFields, Entries.field?, Entries.get?_cons, Value.equal_str, helpersKey,
      componentsKey, optionsKey]
  case inLoop =>
    intro it outer hits
    cases hits
  case outside =>
    intro _ name hname
    exact hother fun r hr => (reserved_ne_loopName hr hname).symm
  case other => exact fun key h => hother fun name hname => h name (List.mem_append_left _ hname)

/-- The scope of a loop's item keeps what the loop does not bind. -/
theorem Bound.atItem (h : s.Bound e data given its) (item : Value) (i n : Nat) :
    (s.atItem item i n).Bound e data given (⟨item, i, n⟩ :: its) where
  helpers :=
    (get?_atItem_of_ne (fun _ => reserved_ne_loopName (by decide)) item i n).trans h.helpers
  components :=
    (get?_atItem_of_ne (fun _ => reserved_ne_loopName (by decide)) item i n).trans h.components
  options :=
    (get?_atItem_of_ne (fun _ => reserved_ne_loopName (by decide)) item i n).trans h.options
  inLoop := by
    rintro it outer ⟨⟩ name hname
    exact get?_atItem_loopName hname item i n
  outside := by
    intro hits
    cases hits
  other := by
    intro key hkey
    have hloop : ∀ name ∈ loopNames, key ≠ .str name := fun name hname =>
      hkey name (List.mem_append_right _ hname)
    rw [get?_atItem_of_ne hloop, h.other key hkey]

end Scope

/-! ## Scopes that a render gets to -/

namespace Template

variable [Attributes]

/-- Rendering a page in a scope gets to the nodes of a body, all of them in one scope, inside of some
    rounds of loops, innermost first. -/
inductive Enters (f : Functions) (page : Template) (scope : Scope) :
    List Iteration → Template → Scope → Prop
  | page : Enters f page scope [] page scope
  | conditional {its : List Iteration} {body inner : Template} {s : Scope} {subject : String}
      {line : Nat} : Enters f page scope its body s →
      .block .conditional subject line inner ∈ body → (f.valueOf s subject.toList).isTruthy →
      Enters f page scope its inner s
  | loop {its : List Iteration} {body inner : Template} {s : Scope} {subject : String} {line i : Nat}
      {item : Value} : Enters f page scope its body s →
      .block .loop subject line inner ∈ body → (s.loopItems subject.toList)[i]? = some item →
      Enters f page scope (⟨item, i, (s.loopItems subject.toList).length⟩ :: its) inner
        (s.atItem item i (s.loopItems subject.toList).length)

variable {f : Functions} {page : Template} {scope : Scope}

mutual

theorem enters_of_mem_courseOf : ∀ (n : Node) {its : List Iteration} {body : Template} {s : Scope},
    Enters f page scope its body s → n ∈ body → ∀ v ∈ courseOf f n s,
      ∃ its body, Enters f page scope its body v.scope ∧ v.node ∈ body
  | .text t, its, body, s, h, hn => fun v hv => by
      obtain rfl := List.mem_singleton.1 hv
      exact ⟨its, body, h, hn⟩
  | .variable e line, its, body, s, h, hn => fun v hv => by
      obtain rfl := List.mem_singleton.1 hv
      exact ⟨its, body, h, hn⟩
  | .component name arguments line, its, body, s, h, hn => fun v hv => by
      obtain rfl := List.mem_singleton.1 hv
      exact ⟨its, body, h, hn⟩
  | .block .conditional subject line inner, its, body, s, h, hn => fun v hv => by
      rw [courseOf] at hv
      rcases List.mem_cons.1 hv with rfl | hv
      · exact ⟨its, body, h, hn⟩
      · split at hv
        · rename_i hmet
          exact enters_of_mem_course inner (h.conditional hn hmet) (fun _ hm => hm) v hv
        · cases hv
  | .block .loop subject line inner, its, body, s, h, hn => fun v hv => by
      rw [courseOf] at hv
      rcases List.mem_cons.1 hv with rfl | hv
      · exact ⟨its, body, h, hn⟩
      · obtain ⟨⟨item, i⟩, hitem, hv⟩ := List.mem_flatMap.1 hv
        have hget := List.mem_zipIdx_iff_getElem?.1 hitem
        exact enters_of_mem_course inner (h.loop hn hget) (fun _ hm => hm) v hv

/-- Each visit is to a node of a body that rendering gets to, in the scope of that body. -/
theorem enters_of_mem_course : ∀ (nodes : List Node) {its : List Iteration} {body : Template}
    {s : Scope}, Enters f page scope its body s → nodes ⊆ body → ∀ v ∈ course f nodes s,
      ∃ its body, Enters f page scope its body v.scope ∧ v.node ∈ body
  | [], _, _, _, _, _ => fun v hv => nomatch hv
  | n :: ns, its, body, s, h, hnodes => fun v hv => by
      obtain ⟨hn, hns⟩ := List.cons_subset.1 hnodes
      rw [course] at hv
      rcases List.mem_append.1 hv with hv | hv
      · exact enters_of_mem_courseOf n h hn v hv
      · exact enters_of_mem_course ns h hns v hv

end

/-- Wherever rendering a page of an engine gets to, it is known what each name stands for. -/
theorem Enters.bound {e : Engine} {data given : Entries} {its : List Iteration} {body : Template}
    {s : Scope} (h : Enters f page (e.pageScope data given) its body s) :
    s.Bound e data given its := by
  induction h with
  | page => exact Scope.bound_pageScope e data given
  | conditional _ _ _ ih => exact ih
  | loop _ _ _ ih => exact ih.atItem _ _ _

end Template

namespace Engine

section

variable [Attributes]

/-- A page with proper data and options has the text that its template has in the scope of the
    page. -/
theorem render_map_snd (e : Engine) (template : String) (data : Entries) {options : Value}
    {given : Entries} (h : optionEntries options = .ok given) :
    (e.render (.str template) (.map data) options).2
      = Template.render e.functions (Template.parse (e.source template))
          (e.pageScope data given) := by
  rw [render, e.renderText_map_of_ok template data h]

/-- **What names stand for on a page.** All that rendering does are the visits of its course: their
    texts in their order make up the page, and what rendering tells and how it fails is what the
    visits do in the order of the stages. Each visit is in a scope in which every name is bound as it
    has to be: the reserved names to the registries and the options, the names of loops to the
    innermost round, or else to what the data give them, and every other key to what the data give
    it. The options are the usual ones with those of the render written over them, name by name, and
    what comes after a loop is visited in the scope of what comes before it. -/
theorem render_bound (e : Engine) (template : String) (data : Entries) {options : Value}
    {given : Entries} (hoptions : optionEntries options = .ok given) :
    let f := e.functions
    let nodes := Template.parse (e.source template)
    let scope := e.pageScope data given
    let page := (e.render (.str template) (.map data) options).2
    let visits := Template.course f nodes scope
    let stages := Template.stagedCourse f nodes scope
    (page.Agrees (String.join <$> visits.mapM (Visit.render f)) ∧
      page.effect = (stages.mapM (Visit.render f)).effect ∧
      stages.Perm (visits.filter fun v => v.node.stage?.isSome)) ∧
    (∀ v ∈ visits, ∃ its body, Template.Enters f nodes scope its body v.scope ∧ v.node ∈ body ∧
      v.scope.Bound e data given its) ∧
    (∀ name, (e.defaultOptions.update given).field? name
      = (Entries.field? given.reverse name).or (e.defaultOptions.field? name)) ∧
    ∀ before loop after s, Template.course f (before ++ loop :: after) s
      = Template.course f before s ++ Template.courseOf f loop s ++ Template.course f after s := by
  intro f nodes scope page visits stages
  have hread := Template.readable_parse (e.source template)
  have hpage : page = Template.render f nodes scope := e.render_map_snd template data hoptions
  refine ⟨⟨?_, ?_, Template.stagedCourse_perm nodes scope⟩, ?_,
    fun name => Entries.field?_update given name _, ?_⟩
  · rw [hpage, ← Template.renderInOrder_eq_course nodes hread]
    exact Template.render_agrees_inOrder f nodes scope
  · rw [hpage]
    exact Template.effect_render_eq_stagedCourse hread scope
  · intro v hv
    obtain ⟨its, body, henters, hbody⟩ :=
      Template.enters_of_mem_course nodes .page (fun _ hm => hm) v hv
    exact ⟨its, body, henters, hbody, henters.bound⟩
  · intro before loop after s
    rw [Template.course_append, Template.course, List.append_assoc]

/-- Data that have reserved names and names of loops for keys. -/
def claimingData : Entries :=
  .ofFields [
    ("$helpers", .str "own"),
    ("this", .str "own"),
    ("@first", .str "own"),
    ("rows", .list [.list [.str "a", .str "b"], .list [.str "c"]])]

/-- A loop inside of a loop, and names of loops after each of them. -/
def nestedRows : String :=
  "\x7b\x7b#each rows\x7d\x7d\x7b\x7b#each this\x7d\x7d\x7b\x7bthis\x7d\x7d\x7b\x7b/each\x7d\x7d\x7b\x7b@first\x7d\x7d;\x7b\x7b/each\x7d\x7d\x7b\x7bthis\x7d\x7d\x7b\x7b@first\x7d\x7d"

end

/-- Whatever names the data claim, the ten visits of this page find what has to be there. -/
theorem render_bound_claimed :
    let e := standard 1 (.ofFields [("size", .int 1), ("tone", .str "plain")])
    let given : Entries := .ofFields [("size", .int 2)]
    let nodes := Template.parse (e.source nestedRows)
    let visits := Template.course e.functions nodes (e.pageScope claimingData given)
    optionEntries (.map given) = .ok given ∧
    (visits.map fun v => v.node.stage?.isSome).count true = 10 ∧
    (∀ v ∈ visits, ∃ its body,
      Template.Enters e.functions nodes (e.pageScope claimingData given) its body v.scope ∧
        v.node ∈ body ∧ v.scope.Bound e claimingData given its) ∧
    (e.render (.str nestedRows) (.map claimingData) (.map given)).2.outcome.toOption
      = some "abtrue;cfalse;ownown" := by
  intro e given nodes visits
  have hgiven : optionEntries (.map given) = .ok given := optionEntries_map given
  exact ⟨hgiven, by decide +kernel, (e.render_bound nestedRows claimingData hgiven).2.1,
    by decide +kernel⟩

end Engine

end Stencil
