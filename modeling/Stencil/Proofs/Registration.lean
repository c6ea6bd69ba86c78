import Stencil.Proofs.Batch
import Stencil.Proofs.Reordering

set_option autoImplicit false

/-! # Registering in another order

Registrations under different names may be made in either order. The engines that come out of it
differ in the order of their registries at most (`Engine.Alike`). Each operation keeps this
(`Alike.perform`) and is answered the same by both engines, unless it asks for the order. So no
later answer in a session depends on the order of two registrations (`run_swap_registrations`). -/

namespace Stencil

/-! ## Registrations -/

/-- The registries of an engine. -/
inductive RegistryKind where
  | templates
  | helpers
  | components
  deriving DecidableEq, Repr

/-- Something to be registered under a name. -/
inductive Registration where
  | template (name text : String)
  | helper (name : String) (h : Helper)
  | component (name : String) (c : Component)

namespace Registration

/-- The registry and the name. -/
def target : Registration → RegistryKind × String
  | .template name _ => (.templates, name)
  | .helper name _ => (.helpers, name)
  | .component name _ => (.components, name)

/-- Whether what is registered takes no notice of the order of registries. -/
def IgnoresOrder : Registration → Prop
  | .template _ _ => True
  | .helper _ h => Helper.IgnoresOrder h
  | .component _ c => Component.IgnoresOrder c

end Registration

namespace Operation

variable [Attributes]

/-- What an operation registers. -/
def registrations : Operation → List Registration
  | .registerTemplate name text => [.template name text]
  | .registerHelper name h => [.helper name h]
  | .registerComponent name c => [.component name c]
  | .registerSite => Card.site.map fun card => .component card.name card.component
  | _ => []

/-- Where an operation registers something. -/
def targets (op : Operation) : List (RegistryKind × String) :=
  op.registrations.map Registration.target

/-- Whether what an operation registers takes no notice of the order of registries. -/
def IgnoresOrder (op : Operation) : Prop :=
  ∀ r ∈ op.registrations, r.IgnoresOrder

/-- The cards take no notice of the order of registries. -/
theorem ignoresOrder_registerSite : registerSite.IgnoresOrder := by
  intro r hr
  obtain ⟨card, -, rfl⟩ := List.mem_map.1 hr
  exact card.ignoresOrder_component

end Operation

namespace Engine

/-- The engine with something registered. -/
def register (e : Engine) : Registration → Engine
  | .template name text => e.registerTemplate name text
  | .helper name h => e.registerHelper name h
  | .component name c => e.registerComponent name c

/-- The engine with some things registered, one after the other. -/
def registerAll (e : Engine) (rs : List Registration) : Engine :=
  rs.foldl register e

/-- Registering is all that an operation does that registers something. -/
theorem perform_eq_registerAll [Attributes] {op : Operation} (h : op.registrations ≠ [])
    (e : Engine) :
    e.perform op = (e.registerAll op.registrations, .done) := by
  cases op with
  | registerTemplate name text => rfl
  | registerHelper name h => rfl
  | registerComponent name c => rfl
  | registerSite => rfl
  | _ => exact absurd rfl h

theorem ignoreOrder_register {e : Engine} (hf : e.functions.IgnoreOrder) {r : Registration}
    (hr : r.IgnoresOrder) : (e.register r).functions.IgnoreOrder := by
  cases r with
  | template name text => exact hf
  | helper name h =>
      refine ⟨fun other g hg => ?_, hf.components⟩
      rw [register, registerHelper, Registry.get?_insert] at hg
      split at hg
      · cases hg
        exact hr
      · exact hf.helpers other g hg
  | component name c =>
      refine ⟨hf.helpers, fun other d hd => ?_⟩
      rw [register, registerComponent, Registry.get?_insert] at hd
      split at hd
      · cases hd
        exact hr
      · exact hf.components other d hd

theorem ignoreOrder_registerAll {rs : List Registration} : ∀ {e : Engine},
    e.functions.IgnoreOrder → (∀ r ∈ rs, r.IgnoresOrder) →
      (e.registerAll rs).functions.IgnoreOrder := by
  induction rs with
  | nil => exact fun hf _ => hf
  | cons r rs ih =>
      intro e hf hrs
      obtain ⟨hr, hrs⟩ := List.forall_mem_cons.1 hrs
      exact ih (ignoreOrder_register hf hr) hrs

theorem ignoreOrder_standard (capacity : Int) (options : Entries) :
    (standard capacity options).functions.IgnoreOrder :=
  ⟨Builtin.ignoresOrder_registry, nofun⟩

/-! ## Engines that differ in the order of their registries -/

/-- The engines are the same, but their registries may be in different orders. -/
structure Alike (e e' : Engine) : Prop where
  templates : e.templates.Alike e'.templates
  functions : e.functions.Alike e'.functions
  defaultOptions : e.defaultOptions = e'.defaultOptions
  cache : e.cache = e'.cache

variable {e e' e'' : Engine}

namespace Alike

theorem refl (e : Engine) : e.Alike e :=
  ⟨.refl _, ⟨.refl _, .refl _⟩, rfl, rfl⟩

theorem trans (h : e.Alike e') (h' : e'.Alike e'') : e.Alike e'' where
  templates := h.templates.trans h'.templates
  functions := ⟨h.functions.helpers.trans h'.functions.helpers,
    h.functions.components.trans h'.functions.components⟩
  defaultOptions := h.defaultOptions.trans h'.defaultOptions
  cache := h.cache.trans h'.cache

theorem register (h : e.Alike e') (r : Registration) : (e.register r).Alike (e'.register r) := by
  obtain ⟨ht, ⟨hh, hc⟩, ho, hk⟩ := h
  cases r with
  | template name text => exact ⟨ht.insert name text, ⟨hh, hc⟩, ho, hk⟩
  | helper name h => exact ⟨ht, ⟨hh.insert name h, hc⟩, ho, hk⟩
  | component name c => exact ⟨ht, ⟨hh, hc.insert name c⟩, ho, hk⟩

end Alike

/-! ## Registrations that commute -/

/-- Registrations in different registries commute. -/
theorem register_comm_of_kind_ne (e : Engine) {r s : Registration} (h : r.target.1 ≠ s.target.1) :
    (e.register r).register s = (e.register s).register r := by
  cases r <;> cases s <;> first | rfl | exact absurd rfl h

/-- Registrations under different names commute but for the order of the names. -/
theorem register_comm (e : Engine) {r s : Registration} (h : r.target ≠ s.target) :
    ((e.register r).register s).Alike ((e.register s).register r) := by
  by_cases hkind : r.target.1 = s.target.1
  · have hname : r.target.2 ≠ s.target.2 := fun hname => h (Prod.ext hkind hname)
    cases r with
    | template name text =>
        cases s with
        | template other text' =>
            exact ⟨Registry.insert_comm _ hname _ _, ⟨.refl _, .refl _⟩, rfl, rfl⟩
        | _ => cases hkind
    | helper name h =>
        cases s with
        | helper other h' =>
            exact ⟨.refl _, ⟨Registry.insert_comm _ hname _ _, .refl _⟩, rfl, rfl⟩
        | _ => cases hkind
    | component name c =>
        cases s with
        | component other c' =>
            exact ⟨.refl _, ⟨.refl _, Registry.insert_comm _ hname _ _⟩, rfl, rfl⟩
        | _ => cases hkind
  · rw [e.register_comm_of_kind_ne hkind]
    exact .refl _

/-- A relation of engines that registering the same on both sides keeps. -/
structure Congruence (R : Engine → Engine → Prop) : Prop where
  refl : ∀ e, R e e
  trans : ∀ {e e' e''}, R e e' → R e' e'' → R e e''
  register : ∀ {e e'}, R e e' → ∀ r, R (e.register r) (e'.register r)

theorem congruence_alike : Congruence Alike := ⟨Alike.refl, Alike.trans, Alike.register⟩

theorem congruence_eq : Congruence Eq :=
  ⟨fun _ => rfl, Eq.trans, fun h r => congrArg (register · r) h⟩

namespace Congruence

variable {R : Engine → Engine → Prop} (hR : Congruence R)
include hR

theorem registerAll (rs : List Registration) : ∀ {e e' : Engine}, R e e' →
    R (e.registerAll rs) (e'.registerAll rs) := by
  induction rs with
  | nil => exact fun h => h
  | cons r rs ih => exact fun h => ih (hR.register h r)

/-- A registration that commutes with each of some others commutes with all of them. -/
theorem register_registerAll {r : Registration} {ss : List Registration}
    (h : ∀ s ∈ ss, ∀ e : Engine, R ((e.register r).register s) ((e.register s).register r)) :
    ∀ e : Engine, R ((e.register r).registerAll ss) ((e.registerAll ss).register r) := by
  induction ss with
  | nil => exact fun e => hR.refl _
  | cons s ss ih =>
      intro e
      obtain ⟨hs, hss⟩ := List.forall_mem_cons.1 h
      have hfirst := hR.registerAll ss (hs e)
      exact hR.trans hfirst (ih hss (e.register s))

/-- Registrations that commute one by one commute. -/
theorem registerAll_comm {rs ss : List Registration}
    (h : ∀ r ∈ rs, ∀ s ∈ ss, ∀ e : Engine,
      R ((e.register r).register s) ((e.register s).register r)) :
    ∀ e : Engine, R ((e.registerAll rs).registerAll ss) ((e.registerAll ss).registerAll rs) := by
  induction rs with
  | nil => exact fun e => hR.refl _
  | cons r rs ih =>
      intro e
      obtain ⟨hr, hrs⟩ := List.forall_mem_cons.1 h
      -- All but the first one go past `ss`, and then the first one does.
      have hfirst := hR.registerAll rs (hR.register_registerAll hr e)
      exact hR.trans (ih hrs (e.register r)) hfirst

end Congruence

/-! ## Batches of engines that make the same pages -/

section

variable [Attributes] {e e' : Engine} {template options : Value}
  (hpage : ∀ data, e.page template data options = e'.page template data options)
include hpage

/-- Engines that make the same pages make the same batch of them, and it only adds to the cache. -/
theorem renderPages_of_page_eq (listener : Option ProgressListener) (logging : Logging)
    (pages : List Value) : ∀ (i : Nat) (run : BatchRun) (c c' : Cache), run.engine = e.withCache c →
      ∃ d, renderPages template options listener logging i (run.withEngine (e'.withCache c')) pages
        = ((renderPages template options listener logging i run pages).1.withEngine
              (e'.withCache d),
            (renderPages template options listener logging i run pages).2) := by
  induction pages with
  | nil => exact fun i run c c' _ => ⟨c', rfl⟩
  | cons data pages ih =>
      intro i run c c' hrun
      obtain ⟨d, hone⟩ : ∃ d, run.engine.render template data options
          = (e.withCache d, e.page template data options) :=
        ⟨_, hrun ▸ e.render_withCache c template data options⟩
      obtain ⟨d', hother⟩ : ∃ d', (run.withEngine (e'.withCache c')).engine.render template data
          options = (e'.withCache d', e.page template data options) := by
        rw [hpage]
        exact ⟨_, e'.render_withCache c' template data options⟩
      rw [renderPages, renderPages, hone, hother]
      dsimp only
      -- The page is the same, so the listener is told the same and both go on or neither does.
      cases hout : (e.page template data options).outcome with
      | error fault => exact ⟨d', rfl⟩
      | ok text =>
          have hnext (told : List Notice) : (run.withEngine (e'.withCache c')).addPage
                (e'.withCache d') i text told
              = (run.addPage (e.withCache d) i text told).withEngine (e'.withCache d') := rfl
          dsimp only
          rw [hnext, reportIf_withEngine]
          rcases hafter : reportIf _ listener (run.addPage _ i text _) with ⟨after, fault | ⟨⟩⟩
          · exact ⟨d', rfl⟩
          · have hengine : after.engine = e.withCache d := by
              have h := engine_reportIf (· = progressStep) listener
                (run.addPage (e.withCache d) i text
                  (logging.filter (e.page template data options).log))
              rwa [hafter] at h
            obtain ⟨last, hlast⟩ := ih (i + 1) after d d' hengine
            dsimp only
            rw [hlast]
            exact ⟨last, rfl⟩

/-- Engines that make the same pages and refuse the same make the same batch. -/
theorem renderBatch_of_page_eq (hfault : e.batchFault? template = e'.batchFault? template)
    (logging : Logging) (pages : List Value) (listener : Option ProgressListener) :
    ∃ d, e'.renderBatch logging template pages options listener
      = { e.renderBatch logging template pages options listener with
          engine := e'.withCache d } := by
  simp only [renderBatch, ← hfault]
  cases e.batchFault? template with
  | error fault => exact ⟨e'.cache, rfl⟩
  | ok fault? =>
      cases fault? with
      | some fault => exact ⟨e'.cache, rfl⟩
      | none =>
          obtain ⟨d, hd⟩ := renderPages_of_page_eq hpage listener logging.collecting pages 0
            ⟨e, [], [], 0, []⟩ e.cache e'.cache rfl
          have hpages : renderPages template options listener logging.collecting 0
              ⟨e', [], [], 0, []⟩ pages = _ := hd
          simp only [Logging.whileCollecting, hpages, finishBatch]
          refine ⟨d, ?_⟩
          cases (renderPages template options listener logging.collecting 0 ⟨e, [], [], 0, []⟩
            pages).2.outcome with
          | error fault => rfl
          | ok u =>
              simp only [reportIf_withEngine]
              rfl

end

/-! ## What operations do to an engine -/

/-- An operation that registers nothing changes the cache at most. -/
theorem perform_fst [Attributes] {op : Operation} (h : op.registrations = []) (e : Engine) :
    (e.perform op).1 = e.withCache (e.cache.look (e.lookup? op)) := by
  obtain ⟨c, hc⟩ : ∃ c, (e.perform op).1 = e.withCache c := by
    cases op with
    | compile text => exact ⟨_, rfl⟩
    | render template data options => exact ⟨_, e.render_fst template data options⟩
    | batch logging template pages options listener =>
        have hpage (data : Value) : e.page template data options = e.page template data options :=
          rfl
        obtain ⟨c, hc⟩ := renderBatch_of_page_eq hpage rfl logging pages listener
        exact ⟨c, congrArg (·.engine) hc⟩
    | registerTemplate name text => cases h
    | registerHelper name h => cases h
    | registerComponent name c => cases h
    | registerSite => cases h
    | _ => exact ⟨e.cache, rfl⟩
  -- Nothing but the cache changes, and what becomes of that is known.
  rw [hc, ← e.cache_perform op, hc]
  rfl

/-- The scope of a page fails for want of proper data or options, whatever the engine is, or it is
    made from them. -/
theorem scope_cases (data options : Value) :
    (∃ log fault, ∀ e : Engine, e.scope data options = ⟨log, .error fault⟩) ∨
      ∃ log entries chosen, ∀ e : Engine,
        e.scope data options = ⟨log, .ok (e.pageScope entries chosen)⟩ := by
  unfold scope
  rcases dataEntries data with ⟨log, fault | entries⟩
  · exact Or.inl ⟨log, fault, fun _ => rfl⟩
  · cases optionEntries options with
    | error fault => exact Or.inl ⟨log ++ [], fault, fun _ => rfl⟩
    | ok chosen => exact Or.inr ⟨log ++ ([] ++ []), entries, chosen, fun _ => rfl⟩

variable {e e' : Engine}

namespace Alike

variable (h : e.Alike e')
include h

theorem withCache (c : Cache) : (e.withCache c).Alike (e'.withCache c) :=
  ⟨h.templates, h.functions, h.defaultOptions, rfl⟩

theorem source_eq (template : String) : e.source template = e'.source template := by
  rw [source, source, h.templates.get?_eq]

theorem batchFault?_eq (template : Value) : e.batchFault? template = e'.batchFault? template := by
  cases template with
  | str s => simp only [batchFault?, batchSource, h.templates.get?_eq]
  | _ => rfl

theorem pageLookup?_eq (template data options : Value) :
    e.pageLookup? template data options = e'.pageLookup? template data options := by
  cases template with
  | str s =>
      rcases scope_cases data options with ⟨log, fault, hscope⟩ | ⟨log, entries, chosen, hscope⟩
      · simp only [pageLookup?, hscope e, hscope e']
      · simp only [pageLookup?, hscope e, hscope e', h.source_eq]
  | _ => rfl

theorem lookup?_eq (op : Operation) : e.lookup? op = e'.lookup? op := by
  cases op with
  | render template data options => exact h.pageLookup?_eq template data options
  | batch logging template pages options listener =>
      simp only [lookup?, pagesLookup?, h.batchFault?_eq, h.pageLookup?_eq]
  | _ => rfl

/-- An operation keeps engines alike. -/
theorem perform [Attributes] (op : Operation) : (e.perform op).1.Alike (e'.perform op).1 := by
  by_cases hop : op.registrations = []
  · rw [perform_fst hop, perform_fst hop, h.lookup?_eq, h.cache]
    exact h.withCache _
  · rw [perform_eq_registerAll hop, perform_eq_registerAll hop]
    exact congruence_alike.registerAll _ h

end Alike

/-- So does a session. -/
theorem Alike.run [Attributes] (ops : List Operation) : ∀ {e e' : Engine}, e.Alike e' →
    (e.run ops).1.Alike (e'.run ops).1 := by
  induction ops with
  | nil => exact fun h => h
  | cons op ops ih => exact fun h => ih (h.perform op)

theorem ignoreOrder_perform [Attributes] {op : Operation} (hf : e.functions.IgnoreOrder)
    (hop : op.IgnoresOrder) : (e.perform op).1.functions.IgnoreOrder := by
  by_cases hnone : op.registrations = []
  · rw [perform_fst hnone]
    exact hf
  · rw [perform_eq_registerAll hnone]
    exact ignoreOrder_registerAll hf hop

theorem ignoreOrder_run [Attributes] {ops : List Operation} :
    ∀ {e : Engine}, e.functions.IgnoreOrder →
    (∀ op ∈ ops, op.IgnoresOrder) → (e.run ops).1.functions.IgnoreOrder := by
  induction ops with
  | nil => exact fun hf _ => hf
  | cons op ops ih =>
      intro e hf hops
      obtain ⟨hop, hops⟩ := List.forall_mem_cons.1 hops
      exact ih (ignoreOrder_perform hf hop) hops

theorem run_append_fst [Attributes] (ops later : List Operation) : ∀ e : Engine,
    (e.run (ops ++ later)).1 = ((e.run ops).1.run later).1 := by
  induction ops with
  | nil => exact fun e => rfl
  | cons op ops ih => exact fun e => ih (e.perform op).1

end Engine

/-! ## What operations answer -/

/-- Whether a template hands one of the registries out to its page, a helper or a component. -/
def Engine.handsOutRegistry (e : Engine) : Value → Bool
  | .str template => (Template.parse (e.source template)).handsOutRegistry
  | _ => false

namespace Operation

/-- Whether one of the registries is handed out to a page, a helper or a component. -/
def handsOutRegistry (e : Engine) : Operation → Bool
  | .render template _ _ => e.handsOutRegistry template
  | .batch _ template _ _ _ => e.handsOutRegistry template
  | .evaluate expression _ _ => (Expression.read expression.toList).handsOverRegistry
  | _ => false

/-- Whether the answer lists what is registered. -/
def listsRegistry : Operation → Bool
  | .names => true
  | .evaluate expression _ _ => (Expression.read expression.toList).isRegistry
  | _ => false

end Operation

/-- The answers are the same, but what is registered may be listed in different orders. -/
inductive Answer.Alike : Answer → Answer → Prop
  | same (answer : Answer) : Alike answer answer
  | names {templates templates' helpers helpers' components components' : List String} :
    templates.Perm templates' → helpers.Perm helpers' → components.Perm components' →
      Alike (.names templates helpers components) (.names templates' helpers' components')
  | registry {v w : Value} (log : List Notice) :
    v.Relisted w → Alike (.value ⟨log, .ok v⟩) (.value ⟨log, .ok w⟩)

namespace Engine.Alike

variable {e e' : Engine} (h : e.Alike e')
include h

theorem pageScope (data options : Entries) :
    (e.pageScope data options).Alike (e'.pageScope data options) := by
  rw [Engine.pageScope, Engine.pageScope, h.defaultOptions]
  exact Scope.alike_root h.functions.helpers h.functions.components data _

/-- A page is the same if the template hands no registry out. -/
theorem page_eq [Attributes] (hf : e.functions.IgnoreOrder) {template : Value}
    (hout : e.handsOutRegistry template = false) (data options : Value) :
    e.page template data options = e'.page template data options := by
  cases template with
  | str s =>
      rw [page, page, render_str_snd, render_str_snd, ← h.source_eq]
      rcases scope_cases data options with ⟨log, fault, hscope⟩ | ⟨log, entries, chosen, hscope⟩
      · rw [hscope e, hscope e']
        rfl
      · have hpage := Template.render_eq_of_alike h.functions hf (h.pageScope entries chosen) hout
        rw [hscope e, hscope e', Telling.ok_bind, Telling.ok_bind, hpage]
  | _ => rfl

/-- A value is the same, or it lists a registry that was asked for. -/
theorem evaluate_alike [Attributes] (hf : e.functions.IgnoreOrder) {expression : String}
    (hover : (Expression.read expression.toList).handsOverRegistry = false) (data options : Value) :
    e.evaluate expression data options = e'.evaluate expression data options ∨
      (Expression.read expression.toList).isRegistry = true ∧
        (Answer.value (e.evaluate expression data options)).Alike
          (.value (e'.evaluate expression data options)) := by
  rw [evaluate, evaluate]
  rcases scope_cases data options with ⟨log, fault, hscope⟩ | ⟨log, entries, chosen, hscope⟩
  · left
    rw [hscope e, hscope e']
    rfl
  · rw [hscope e, hscope e', Telling.ok_bind, Telling.ok_bind]
    rcases Functions.evaluate_alike h.functions hf (h.pageScope entries chosen) hover with
      heq | ⟨hregistry, v, w, hlist, hv, hw⟩
    · rw [heq]
      exact Or.inl rfl
    · rw [hv, hw]
      exact Or.inr ⟨hregistry, .registry _ hlist⟩

/-- A check asks whether names are known, not for their order. -/
theorem check_eq (strictness : Strictness) (text : String) (expected : List String)
    (limit : Option Int) :
    e.check strictness text expected limit = e'.check strictness text expected limit := by
  have hhelper (s : String) (line : Nat) : Functions.unknownIn.unknownHelper e.functions s line
      = Functions.unknownIn.unknownHelper e'.functions s line := by
    simp only [Functions.unknownIn.unknownHelper, Registry.contains_names,
      h.functions.helpers.get?_eq]
  have hunknown : e.functions.unknownIn = e'.functions.unknownIn := by
    funext n
    rcases n with s | ⟨s, line⟩ | ⟨name, arguments, line⟩ | ⟨_ | _, subject, line, body⟩
    · rfl
    · exact hhelper s line
    · simp only [Functions.unknownIn, Registry.contains_names, h.functions.components.get?_eq]
    · exact hhelper subject line
    · rfl
  rw [check, check, hunknown]

/-- An operation has the same answer, unless it asks for the order of a registry. -/
theorem answer_eq [Attributes] (hf : e.functions.IgnoreOrder) {op : Operation}
    (hout : op.handsOutRegistry e = false) (hlists : op.listsRegistry = false) :
    (e.perform op).2 = (e'.perform op).2 := by
  cases op with
  | names => cases hlists
  | registered name => exact congrArg Answer.registered (h.templates.get?_eq name)
  | compile text =>
      rw [Engine.perform, Engine.perform, compile_snd, compile_snd]
  | render template data options => exact congrArg Answer.page (h.page_eq hf hout data options)
  | evaluate expression data options =>
      refine congrArg Answer.value ((h.evaluate_alike hf hout data options).resolve_right ?_)
      rintro ⟨hregistry, -⟩
      cases hlists.symm.trans hregistry
  | check strictness text expected limit =>
      exact congrArg Answer.report (h.check_eq strictness text expected limit)
  | batch logging template pages options listener =>
      obtain ⟨c, hc⟩ := renderBatch_of_page_eq (fun data => h.page_eq hf hout data options)
        (h.batchFault?_eq template) logging pages listener
      rw [Engine.perform, Engine.perform, hc]
  | _ => rfl

/-- An operation has the same answer but for the order in which it lists a registry. -/
theorem answer_alike [Attributes] (hf : e.functions.IgnoreOrder) {op : Operation}
    (hout : op.handsOutRegistry e = false) :
    ((e.perform op).2).Alike (e'.perform op).2 := by
  cases hlists : op.listsRegistry with
  | false =>
      rw [h.answer_eq hf hout hlists]
      exact .same _
  | true =>
      cases op with
      | names =>
          exact .names h.templates.names_perm h.functions.helpers.names_perm
            h.functions.components.names_perm
      | evaluate expression data options =>
          rcases h.evaluate_alike hf hout data options with heq | ⟨-, halike⟩
          · rw [Engine.perform, Engine.perform, heq]
            exact .same _
          · exact halike
      | _ => cases hlists

end Engine.Alike

namespace Engine

/-! ## Sessions -/

/-- Operations whose registrations commute one by one commute. -/
theorem Congruence.run_swap [Attributes] {R : Engine → Engine → Prop} (hR : Congruence R)
    {a b : Operation} (ha : a.targets ≠ []) (hb : b.targets ≠ [])
    (h : ∀ r ∈ a.registrations, ∀ s ∈ b.registrations, ∀ e : Engine,
      R ((e.register r).register s) ((e.register s).register r)) (e : Engine) :
    R (e.run [a, b]).1 (e.run [b, a]).1 := by
  have ha' : a.registrations ≠ [] := mt List.map_eq_nil_iff.2 ha
  have hb' : b.registrations ≠ [] := mt List.map_eq_nil_iff.2 hb
  simp only [run, perform_eq_registerAll ha', perform_eq_registerAll hb']
  exact hR.registerAll_comm h e

/-- **The order of registrations makes no difference to later answers.** Two adjacent operations of
    a session that register things, each in other places than the other one, can be swapped:

    * an operation has the same answer, unless it hands a registry out to a page, a helper or a
      component, or lists one;
    * where it lists one, the names may be in another order;
    * if the two operations register in different registries, nothing changes at all.

    The helpers and components of the session may look each other up, but they may not take notice
    of the order themselves. -/
theorem run_swap_registrations [Attributes] (e : Engine) (before later : List Operation)
    (a b : Operation)
    (ha : a.targets ≠ []) (hb : b.targets ≠ []) (hdisjoint : a.targets.Disjoint b.targets)
    (hf : e.functions.IgnoreOrder)
    (hops : ∀ op ∈ before ++ a :: b :: later, op.IgnoresOrder) :
    let one := (e.run (before ++ a :: b :: later)).1
    let other := (e.run (before ++ b :: a :: later)).1
    (∀ op : Operation, op.handsOutRegistry one = false → op.listsRegistry = false →
      (one.perform op).2 = (other.perform op).2) ∧
    (∀ op : Operation, op.handsOutRegistry one = false →
      (one.perform op).2.Alike (other.perform op).2) ∧
    ((∀ s ∈ a.targets, ∀ t ∈ b.targets, s.1 ≠ t.1) → one = other) := by
  intro one other
  have hrun (x y : Operation) : (e.run (before ++ x :: y :: later)).1
      = (((e.run before).1.run [x, y]).1.run later).1 := by
    rw [run_append_fst, ← run_append_fst [x, y] later]
    rfl
  have halike : one.Alike other := by
    have hswap := congruence_alike.run_swap ha hb (fun r hr s hs e => e.register_comm fun heq =>
      hdisjoint (List.mem_map_of_mem hr) (heq ▸ List.mem_map_of_mem hs)) (e.run before).1
    rw [show one = _ from hrun a b, show other = _ from hrun b a]
    exact hswap.run later
  have hone : one.functions.IgnoreOrder := ignoreOrder_run hf hops
  refine ⟨fun op hout hlists => halike.answer_eq hone hout hlists,
    fun op hout => halike.answer_alike hone hout, fun hkinds => ?_⟩
  have hswap := congruence_eq.run_swap ha hb (fun r hr s hs e =>
    e.register_comm_of_kind_ne (hkinds _ (List.mem_map_of_mem hr) _ (List.mem_map_of_mem hs)))
    (e.run before).1
  rw [show one = _ from hrun a b, show other = _ from hrun b a, hswap]

/-- A date is shown in the same words in a card, whether the helper for dates is replaced before or
    after the cards are registered. -/
theorem run_swap_registrations_site :
    let e := standard 2 []
    let a := Operation.registerHelper "formatDate" fun _ _ => .ok (.str "today")
    let b := Operation.registerSite
    let template := String.ofList (Template.printed [.component "meetingCard" "meeting=m" 1])
    let op := Operation.render (.str template)
      (.map (Entries.ofFields [("m", .map (Entries.ofFields [("date", .str "2024-01-05")]))])) .null
    let one := (e.run [a, b, .compile "x"]).1
    let other := (e.run [b, a, .compile "x"]).1
    a.targets ≠ [] ∧ b.targets ≠ [] ∧ a.targets.Disjoint b.targets ∧ e.functions.IgnoreOrder ∧
    (∀ op ∈ [a, b, .compile "x"], op.IgnoresOrder) ∧ op.handsOutRegistry one = false ∧
    op.listsRegistry = false ∧ (one.perform op).2 = (other.perform op).2 := by
  intro e a b template op one other
  have ha : a.targets ≠ [] := List.cons_ne_nil _ _
  have hb : b.targets ≠ [] := List.cons_ne_nil _ _
  have hdisjoint : a.targets.Disjoint b.targets := List.singleton_disjoint.2 (by decide)
  have hf : e.functions.IgnoreOrder := ignoreOrder_standard 2 []
  have hops : ∀ op ∈ [a, b, .compile "x"], op.IgnoresOrder := by
    have hhelper : a.IgnoresOrder := List.forall_mem_singleton.2 fun _ _ _ _ => rfl
    simp only [List.forall_mem_cons]
    exact ⟨hhelper, Operation.ignoresOrder_registerSite, nofun, nofun⟩
  have hout : op.handsOutRegistry one = false := by decide +kernel
  obtain ⟨hsame, -⟩ := run_swap_registrations e [] [.compile "x"] a b ha hb hdisjoint hf hops
  exact ⟨ha, hb, hdisjoint, hf, hops, hout, rfl, hsame op hout rfl⟩

/-- A page that cuts the list of the components off shows which one was registered first. -/
theorem run_swap_components_shown :
    let e := standard 0 []
    let component : Component := fun _ _ _ => .ok .null
    let a := Operation.registerComponent "a" component
    let b := Operation.registerComponent "b" component
    let template := String.ofList (Template.printed [.variable "truncate $components 5" 1])
    let op := Operation.render (.str template) (.map []) .null
    a.targets ≠ [] ∧ b.targets ≠ [] ∧ a.targets.Disjoint b.targets ∧ e.functions.IgnoreOrder ∧
    (∀ op ∈ [a, b], op.IgnoresOrder) ∧
    ((e.run [a, b]).1.perform op).2 ≠ ((e.run [b, a]).1.perform op).2 := by
  intro e component a b template op
  have ha : a.IgnoresOrder := List.forall_mem_singleton.2 fun _ _ _ _ _ _ _ _ => rfl
  have hb : b.IgnoresOrder := List.forall_mem_singleton.2 fun _ _ _ _ _ _ _ _ => rfl
  have hpages : ((e.run [a, b]).1.page (.str template) (.map []) .null).outcome.toOption
      ≠ ((e.run [b, a]).1.page (.str template) (.map []) .null).outcome.toOption := by
    decide +kernel
  refine ⟨List.cons_ne_nil _ _, List.cons_ne_nil _ _, List.singleton_disjoint.2 (by decide),
    ignoreOrder_standard 0 [], ?_, fun heq => ?_⟩
  · simp only [List.forall_mem_cons]
    exact ⟨ha, hb, nofun⟩
  · exact hpages (congrArg (·.outcome.toOption) (Answer.page.inj heq))

end Engine

end Stencil
