import Mathlib.Data.List.Forall2
import Stencil.Proofs.Dependence

set_option autoImplicit false

/-! # Registries in another order

Templates, helpers and components are found by their names, so it makes no difference to a page in
which order they were registered. The order shows in one place only: a scope lists the names of the
helpers and of the components as two mappings, and a tag may show such a mapping or hand it over to
a helper or a component. `Template.render_eq_of_alike` says that all other templates give the same
page with registries that differ in their order. -/

namespace Stencil

/-! ## Registries that differ in their order -/

namespace Registry

variable {α : Type} {r r' r'' : Registry α}

/-- The registries hold the same under the same names, which may be in different orders. -/
structure Alike (r r' : Registry α) : Prop where
  get?_eq : ∀ name, r.get? name = r'.get? name
  names_perm : r.names.Perm r'.names

namespace Alike

theorem refl (r : Registry α) : r.Alike r := ⟨fun _ => rfl, .refl _⟩

theorem trans (h : r.Alike r') (h' : r'.Alike r'') : r.Alike r'' :=
  ⟨fun name => (h.get?_eq name).trans (h'.get?_eq name), h.names_perm.trans h'.names_perm⟩

end Alike

/-- A name that is new comes last. -/
theorem names_insert (r : Registry α) (name : String) (a : α) :
    (r.insert name a).names = if name ∈ r.names then r.names else r.names ++ [name] := by
  split
  · exact r.names_insert_of_mem a ‹_›
  · exact r.names_insert_of_not_mem a ‹_›

theorem mem_names_insert {name other : String} {a : α} :
    other ∈ (r.insert name a).names ↔ other = name ∨ other ∈ r.names := by
  rw [names_insert]
  split
  · refine (or_iff_right_of_imp ?_).symm
    rintro rfl
    assumption
  · rw [List.mem_append, List.mem_singleton, or_comm]

/-- Registries that differ in their order still do when the same is registered in both. -/
theorem Alike.insert (h : r.Alike r') (name : String) (a : α) :
    (r.insert name a).Alike (r'.insert name a) where
  get?_eq other := by rw [get?_insert, get?_insert, h.get?_eq]
  names_perm := by
    simp only [names_insert, h.names_perm.mem_iff]
    split
    · exact h.names_perm
    · exact h.names_perm.append_right [name]

/-- Under different names it makes no difference what is registered first, except to the order. -/
theorem insert_comm (r : Registry α) {name other : String} (h : name ≠ other) (a b : α) :
    ((r.insert name a).insert other b).Alike ((r.insert other b).insert name a) where
  get?_eq key := by
    simp only [get?_insert]
    by_cases hname : key = name
    · have hother : key ≠ other := hname ▸ h
      simp only [if_pos hname, if_neg hother]
    · simp only [if_neg hname]
  names_perm := by
    rw [names_insert, names_insert (r.insert other b)]
    simp only [mem_names_insert, or_iff_right h, or_iff_right h.symm]
    simp only [names_insert]
    -- The names come out in different orders only if both of them are new.
    by_cases hname : name ∈ r.names
    · simp only [if_pos hname]
      exact .refl _
    · by_cases hother : other ∈ r.names
      · simp only [if_neg hname, if_pos hother]
        exact .refl _
      · simp only [if_neg hname, if_neg hother, List.append_assoc]
        exact (List.Perm.swap other name []).append_left r.names

end Registry

/-! ## Lists of registered functions -/

namespace Value

/-- The mapping from some names to the functions that they name. -/
def listing (kind : FunctionKind) (names : List String) : Value :=
  .map (Entries.ofFields (names.map fun n => (n, .function (.registered kind) n)))

/-- The values list the same functions, which may be in different orders. -/
def Relisted (v w : Value) : Prop :=
  ∃ kind names names', List.Perm names names' ∧ v = listing kind names ∧ w = listing kind names'

end Value

theorem Scope.relisted_registered {α : Type} {r r' : Registry α} (h : r.Alike r')
    (kind : FunctionKind) : (registered kind r).Relisted (registered kind r') :=
  ⟨kind, r.names, r'.names, h.names_perm, rfl, rfl⟩

/-- In a list of functions each is found under its name. -/
theorem Entries.field?_ofFields_map (names : List String) (value : String → Value) (name : String) :
    (ofFields (names.map fun n => (n, value n))).field? name
      = if name ∈ names then some (value name) else none := by
  induction names with
  | nil => rfl
  | cons n names ih =>
      rw [List.map_cons, ofFields, List.map_cons, ← ofFields]
      by_cases h : name = n
      · rw [h, field?_cons_self, if_pos (List.mem_cons_self ..)]
      · have hne : Value.str n ≠ .str name := fun heq => h (Value.str.inj heq).symm
        rw [field?_cons_of_ne hne, ih]
        simp only [List.mem_cons, h, false_or]

namespace Value.Relisted

variable {v w : Value}

theorem step_eq [Attributes] (h : v.Relisted w) (segment : List Char) :
    v.step segment = w.step segment := by
  obtain ⟨kind, names, names', hperm, rfl, rfl⟩ := h
  simp only [listing, step, Entries.field?_ofFields_map, hperm.mem_iff]

/-- Looking up a path leads to one of the functions, so it does not matter how they are listed. -/
theorem resolve_eq [Attributes] (h : v.Relisted w) (path : List Char) :
    Path.resolve path v = Path.resolve path w := by
  obtain ⟨rest, hsplit⟩ := splitOn_eq_cons '.' path
  rw [Path.resolve, Path.resolve, hsplit, List.foldl_cons, List.foldl_cons, h.step_eq]

theorem isTruthy_eq (h : v.Relisted w) : v.isTruthy = w.isTruthy := by
  obtain ⟨kind, names, names', -, rfl, rfl⟩ := h
  rfl

theorem items?_eq (h : v.Relisted w) : v.items? = w.items? := by
  obtain ⟨kind, names, names', -, rfl, rfl⟩ := h
  rfl

end Value.Relisted

/-! ## Scopes that differ in the order of their registries -/

namespace Scope

/-- The names that stand for the registries. -/
def registryKeys : List String := [helpersKey, componentsKey]

/-- An entry of a scope and the one in its place in another scope: they are the same, or they list
    one registry in different orders. -/
inductive EntryAlike : Value × Value → Value × Value → Prop
  | same (entry : Value × Value) : EntryAlike entry entry
  | registry {key : String} {v w : Value} :
    key ∈ registryKeys → v.Relisted w → EntryAlike (.str key, v) (.str key, w)

/-- The scopes are the same, but the registries may be listed in different orders. -/
def Alike (s t : Scope) : Prop := List.Forall₂ EntryAlike s.entries t.entries

variable {s t : Scope}

theorem Alike.refl (s : Scope) : s.Alike s :=
  List.forall₂_same.2 fun entry _ => .same entry

theorem EntryAlike.key_eq {a b : Value × Value} (h : EntryAlike a b) : a.1 = b.1 := by
  cases h <;> rfl

/-- Scopes that are alike still are when a name is bound to values that are. -/
theorem forall₂_insert {key : String} {v w : Value} (hvw : EntryAlike (.str key, v) (.str key, w))
    {es fs : Entries} (h : List.Forall₂ EntryAlike es fs) :
    List.Forall₂ EntryAlike (es.insert (.str key) v) (fs.insert (.str key) w) := by
  induction h with
  | nil => exact .cons hvw .nil
  | @cons e f es fs hef hrest ih =>
      have hkey := hef.key_eq
      obtain ⟨k, x⟩ := e
      obtain ⟨l, y⟩ := f
      obtain rfl : k = l := hkey
      rw [Entries.insert, Entries.insert]
      by_cases hk : (Value.str key).equal k = true
      · obtain rfl := Value.equal_str.1 hk
        rw [if_pos hk, if_pos hk]
        exact .cons hvw hrest
      · rw [if_neg hk, if_neg hk]
        exact .cons hef ih

/-- Scopes that are alike still are when the same texts are bound in both. -/
theorem Alike.child (fields : List (String × Value)) : ∀ {s t : Scope}, s.Alike t →
    (s.child (.ofFields fields)).Alike (t.child (.ofFields fields)) := by
  induction fields with
  | nil => exact fun h => h
  | cons field fields ih => exact fun h => ih (forall₂_insert (.same _) h)

/-- Scopes that are alike still are at the items of a loop. -/
theorem Alike.atItem (h : s.Alike t) (item : Value) (i n : Nat) :
    (s.atItem item i n).Alike (t.atItem item i n) :=
  h.child _

/-- The scopes of a page are alike if the registries are. -/
theorem alike_root {α β : Type} {helpers helpers' : Registry α}
    {components components' : Registry β} (hh : helpers.Alike helpers')
    (hc : components.Alike components') (data options : Entries) :
    (root data helpers components options).Alike (root data helpers' components' options) := by
  have hhelpers : helpersKey ∈ registryKeys := by decide
  have hcomponents : componentsKey ∈ registryKeys := by decide
  have hboth := forall₂_insert (.registry hcomponents (relisted_registered hc .component))
    (forall₂_insert (.registry hhelpers (relisted_registered hh .helper)) (Alike.refl ⟨data⟩))
  exact forall₂_insert (.same _) hboth

/-- A name stands for the same in both scopes, unless it is the name of a registry. -/
theorem Alike.field? (h : s.Alike t) (name : String) :
    s.entries.field? name = t.entries.field? name ∨
      name ∈ registryKeys ∧
        ∃ v w, s.entries.field? name = some v ∧ t.entries.field? name = some w ∧ v.Relisted w := by
  obtain ⟨es⟩ := s
  obtain ⟨fs⟩ := t
  rw [Alike] at h
  dsimp only at h ⊢
  induction h with
  | nil => exact Or.inl rfl
  | @cons e f es fs hef _ ih =>
      by_cases hkey : e.1 = .str name
      · cases hef with
        | same e =>
            obtain ⟨k, v⟩ := e
            cases hkey
            left
            rw [Entries.field?_cons_self, Entries.field?_cons_self]
        | @registry key v w hmem hvw =>
            cases hkey
            exact Or.inr ⟨hmem, v, w, Entries.field?_cons_self .., Entries.field?_cons_self .., hvw⟩
      · have hkey' : f.1 ≠ .str name := hef.key_eq ▸ hkey
        rw [Entries.field?_cons_of_ne hkey, Entries.field?_cons_of_ne hkey']
        exact ih

end Scope

/-! ## Paths and arguments -/

/-- Whether a path is the name of a registry. -/
def Path.isRegistry (path : List Char) : Bool :=
  Scope.registryKeys.contains (String.ofList path)

section

variable [Attributes] {s t : Scope}

/-- What one name leads to is the same in scopes that are alike, or the list of a registry. -/
theorem Scope.Alike.step (h : s.Alike t) (segment : List Char) :
    s.value.step segment = t.value.step segment ∨
      Path.isRegistry segment = true ∧ (s.value.step segment).Relisted (t.value.step segment) := by
  rcases h.field? (String.ofList segment) with heq | ⟨hmem, v, w, hv, hw, hvw⟩
  · left
    simp only [value, Value.step, heq]
  · right
    refine ⟨List.contains_iff_mem.2 hmem, ?_⟩
    simpa only [value, Value.step, hv, hw, Option.getD_some] using hvw

/-- What a path leads to is the same in scopes that are alike, unless the path is the name of a
    registry. -/
theorem Scope.Alike.resolve (h : s.Alike t) (path : List Char) :
    Path.resolve path s.value = Path.resolve path t.value ∨
      Path.isRegistry path = true ∧
        (Path.resolve path s.value).Relisted (Path.resolve path t.value) := by
  by_cases hpoint : '.' ∈ path
  · -- Beyond the first segment there are no lists of registries any more.
    left
    obtain ⟨before, after, rfl, hbefore⟩ := List.eq_append_cons_of_mem hpoint
    have hfirst (v : Value) : Path.resolve before v = v.step before := by
      rw [Path.resolve, splitOn_of_not_mem hbefore, List.foldl_cons, List.foldl_nil]
    rw [Path.resolve_join, Path.resolve_join, hfirst, hfirst]
    rcases h.step before with heq | ⟨-, hlist⟩
    · rw [heq]
    · exact hlist.resolve_eq after
  · simp only [Path.resolve, splitOn_of_not_mem hpoint, List.foldl_cons, List.foldl_nil]
    exact h.step path

theorem Scope.Alike.resolve_eq (h : s.Alike t) {path : List Char}
    (hpath : Path.isRegistry path = false) :
    Path.resolve path s.value = Path.resolve path t.value := by
  refine (h.resolve path).resolve_right fun hlist => ?_
  rw [hlist.1] at hpath
  cases hpath

/-- A loop goes through the same items, since the list of a registry has none. -/
theorem Scope.Alike.loopItems_eq (h : s.Alike t) (path : List Char) :
    s.loopItems path = t.loopItems path := by
  rw [loopItems, loopItems]
  rcases h.resolve path with heq | ⟨-, hlist⟩
  · rw [heq]
  · rw [hlist.items?_eq]

namespace Argument

/-- What an argument is does not change with the order of the registries, unless it is one. -/
theorem evaluate_eq_of_alike (h : s.Alike t) {token : List Char}
    (htoken : isPath token = true → Path.isRegistry token = false) :
    evaluate s.value token = evaluate t.value token := by
  cases hp : isPath token with
  | false => exact value_eq_of_not_isPath hp _ _
  | true =>
      rw [evaluate, evaluate, read_of_isPath hp]
      exact h.resolve_eq (htoken hp)

theorem map_evaluate_eq_of_alike (h : s.Alike t) {tokens : List (List Char)}
    (htokens : (tokens.filter isPath).any Path.isRegistry = false) :
    tokens.map (evaluate s.value) = tokens.map (evaluate t.value) := by
  rw [List.any_eq_false] at htokens
  refine List.map_congr_left fun token htoken => evaluate_eq_of_alike h fun hp => ?_
  exact Bool.eq_false_iff.2 (htokens token (List.mem_filter.2 ⟨htoken, hp⟩))

theorem keywordValues_eq_of_alike (h : s.Alike t) {text : List Char}
    (htext : (((Expression.keywords text).map (·.2)).filter isPath).any Path.isRegistry = false) :
    keywordValues s.value text = keywordValues t.value text := by
  have hvalues := map_evaluate_eq_of_alike h htext
  rw [List.map_map, List.map_map, List.map_inj_left] at hvalues
  rw [keywordValues, keywordValues]
  congr 1
  refine List.map_congr_left fun k hk => ?_
  have hvalue : evaluate s.value k.2 = evaluate t.value k.2 := hvalues k hk
  rw [hvalue]

end Argument

end

/-! ## Functions that take no notice of the order -/

/-- The helper gives the same in scopes that list their registries in different orders. -/
def Helper.IgnoresOrder (h : Helper) : Prop :=
  ∀ arguments s t, Scope.Alike s t → h arguments s = h arguments t

/-- Whether no registered helper takes notice of the order of registries. -/
def Registry.IgnoresOrder (helpers : Registry Helper) : Prop :=
  ∀ name h, helpers.get? name = some h → Helper.IgnoresOrder h

/-- The component gives the same in scopes that list their registries in different orders, also if
    the helpers that it calls are registered in different orders. -/
def Component.IgnoresOrder (c : Component) : Prop :=
  ∀ helpers helpers' : Registry Helper, helpers.Alike helpers' → helpers.IgnoresOrder →
    ∀ arguments s t, Scope.Alike s t → c helpers arguments s = c helpers' arguments t

/-- No registered function takes notice of the order of registries. -/
structure Functions.IgnoreOrder (f : Functions) : Prop where
  helpers : f.helpers.IgnoresOrder
  components : ∀ name c, f.components.get? name = some c → Component.IgnoresOrder c

/-- A helper of the library takes no notice of its scope at all. -/
theorem Builtin.ignoresOrder_helper (b : Builtin) : Helper.IgnoresOrder b.helper :=
  fun _ _ _ _ => rfl

theorem Builtin.ignoresOrder_registry : Builtin.registry.IgnoresOrder := by
  intro name h hget
  obtain ⟨b, -, hb⟩ := List.mem_map.1 (Registry.mem_of_get? hget)
  cases hb
  exact b.ignoresOrder_helper

/-- A card calls what is registered in the place of its helpers and takes no other notice of the
    registries. -/
theorem Card.ignoresOrder_component [Attributes] (c : Card) :
    Component.IgnoresOrder c.component := by
  intro helpers helpers' hh hi arguments s t hst
  refine Card.component_congr (fun b xs => ?_) c arguments
  rw [← hh.get?_eq]
  cases hget : helpers.get? b.name with
  | none => exact b.ignoresOrder_helper xs s t hst
  | some h => exact hi b.name h hget xs s t hst

/-! ## Tags -/

namespace Expression

/-- Whether the expression is the name of a registry. -/
def isRegistry : Expression → Bool
  | .path cs => Path.isRegistry cs
  | _ => false

/-- Whether the expression hands a registry over to a helper. -/
def handsOverRegistry : Expression → Bool
  | .call _ arguments => (arguments.filter Argument.isPath).any Path.isRegistry
  | _ => false

end Expression

/-- Whether the tag shows a registry as a whole or hands it over to a helper or a component. -/
def Node.handsOutRegistry : Node → Bool
  | .text _ => false
  | .variable e _ =>
    (Expression.read e.toList).isRegistry || (Expression.read e.toList).handsOverRegistry
  | .component _ arguments _ =>
    (((Expression.keywords arguments.toList).map (·.2)).filter Argument.isPath).any Path.isRegistry
  | .block .conditional subject _ _ => (Expression.read subject.toList).handsOverRegistry
  | .block .loop _ _ _ => false

/-- Whether one of the tags shows a registry as a whole or hands it over. -/
def Template.handsOutRegistry (nodes : Template) : Bool :=
  (walk nodes).any Node.handsOutRegistry

/-- The functions are the same under the same names, which may be in different orders. -/
structure Functions.Alike (f g : Functions) : Prop where
  helpers : f.helpers.Alike g.helpers
  components : f.components.Alike g.components

namespace Functions

variable [Attributes] {f g : Functions} {s t : Scope}

/-- An expression that hands no registry over has the same value, or it is a registry itself. -/
theorem evaluate_alike (hfg : f.Alike g) (hf : f.IgnoreOrder) (h : s.Alike t)
    {e : List Char} (hover : (Expression.read e).handsOverRegistry = false) :
    f.evaluate s e = g.evaluate t e ∨
      (Expression.read e).isRegistry = true ∧
        ∃ v w, Value.Relisted v w ∧ f.evaluate s e = pure v ∧ g.evaluate t e = pure w := by
  unfold evaluate
  cases hread : Expression.read e with
  | path cs =>
      rcases h.resolve cs with heq | ⟨hregistry, hlist⟩
      · exact Or.inl (congrArg pure heq)
      · exact Or.inr ⟨hregistry, _, _, hlist, rfl, rfl⟩
  | blank => exact Or.inl rfl
  | call helper arguments =>
      left
      rw [hread] at hover
      have hvalues := Argument.map_evaluate_eq_of_alike h hover
      dsimp only
      rw [← hfg.helpers.get?_eq]
      cases hget : f.helpers.get? (String.ofList helper) with
      | none => rfl
      | some run =>
          have hrun := hf.helpers _ run hget (arguments.map (Argument.evaluate t.value)) s t h
          simp only [hvalues, hrun]

/-- An expression that neither is a registry nor hands one over has the same value. -/
theorem evaluate_eq_of_alike (hfg : f.Alike g) (hf : f.IgnoreOrder) (h : s.Alike t)
    {e : List Char} (hregistry : (Expression.read e).isRegistry = false)
    (hover : (Expression.read e).handsOverRegistry = false) : f.evaluate s e = g.evaluate t e := by
  refine (evaluate_alike hfg hf h hover).resolve_right fun hlist => ?_
  rw [hlist.1] at hregistry
  cases hregistry

/-- A condition is met in both or in neither, since the list of a registry counts as present. -/
theorem decides_eq_of_alike (hfg : f.Alike g) (hf : f.IgnoreOrder) (h : s.Alike t)
    {e : List Char}
    (hover : (Expression.read e).handsOverRegistry = false) : f.decides s e = g.decides t e := by
  rw [decides, decides]
  rcases evaluate_alike hfg hf h hover with heq | ⟨-, v, w, hlist, hv, hw⟩
  · rw [heq]
  · rw [hv, hw, pure_bind, pure_bind, hlist.isTruthy_eq]

/-- A component tag that hands no registry over has the same text. -/
theorem expand_eq_of_alike (hfg : f.Alike g) (hf : f.IgnoreOrder) (h : s.Alike t)
    {name : String} {arguments : List Char}
    (hover : (((Expression.keywords arguments).map (·.2)).filter Argument.isPath).any
      Path.isRegistry = false) :
    f.expand s name arguments = g.expand t name arguments := by
  have hvalues := Argument.keywordValues_eq_of_alike h hover
  unfold expand
  rw [← hfg.components.get?_eq]
  cases hget : f.components.get? name with
  | none => rfl
  | some run =>
      have hrun := hf.components name run hget f.helpers g.helpers hfg.helpers hf.helpers
        (Argument.keywordValues t.value arguments) s t h
      simp only [hvalues, hrun]

end Functions

/-- A tag that hands no registry out leads to the same page. -/
theorem Node.leadsAlike_of_alike [Attributes] {f g : Functions} {s t : Scope} (hfg : f.Alike g)
    (hf : f.IgnoreOrder) (h : s.Alike t) {n : Node} (hout : n.handsOutRegistry = false) :
    n.LeadsAlike (fun _ => true) f g s t := by
  rcases n with x | ⟨e, line⟩ | ⟨name, arguments, line⟩ | ⟨_ | _, subject, line, body⟩
  · trivial
  · obtain ⟨hregistry, hover⟩ := Bool.or_eq_false_iff.1 hout
    have hvalue := Functions.evaluate_eq_of_alike hfg hf h hregistry hover
    exact hvalue.symm.trans (Telling.filterLog_true _).symm
  · have htext : f.expand s name arguments.toList = g.expand t name arguments.toList :=
      Functions.expand_eq_of_alike hfg hf h hout
    exact htext.symm.trans (Telling.filterLog_true _).symm
  · have hmet := Functions.decides_eq_of_alike hfg hf h hout
    exact hmet.symm.trans (Telling.filterLog_true _).symm
  · exact (h.loopItems_eq subject.toList).symm

/-- **A template that hands no registry out gives the same page** whatever the order of the
    registries is, with the same notices. -/
theorem Template.render_eq_of_alike [Attributes] {f g : Functions} {s t : Scope} (hfg : f.Alike g)
    (hf : f.IgnoreOrder) (h : s.Alike t) {nodes : Template}
    (hout : nodes.handsOutRegistry = false) : render f nodes s = render g nodes t := by
  rw [handsOutRegistry, List.any_eq_false] at hout
  have halike : render g nodes t = (render f nodes s).filterLog fun _ => true :=
    render_filterLog_of_leadsAlike (fun _ _ item i n h => h.atItem item i n)
      (fun n hn _ _ h => n.leadsAlike_of_alike hfg hf h (Bool.eq_false_iff.2 (hout n hn))) h
  rw [halike, Telling.filterLog_true]

end Stencil
