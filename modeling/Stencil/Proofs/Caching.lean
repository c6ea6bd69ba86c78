import Stencil.Engine.Session

set_option autoImplicit false

/-! # The cache in a session

No answer depends on what is cached, and each operation looks up at most one text
(`perform_withCache`), so the cache after a session is made by the look-ups of the session alone.
`run_cache` says what it holds: the texts that were not found when they were looked up, the last of
them up to the capacity, oldest first. -/

namespace Stencil

/-! ## A queue of bounded length -/

/-- The last `n` of some texts. -/
def newest (n : Nat) (texts : List String) : List String :=
  texts.drop (texts.length - n)

/-- The texts that enter a queue of length `n` which takes in each text that it does not hold when
    the text is requested, after those that entered before. -/
def entered (n : Nat) (before : List String) : List String → List String
  | [] => before
  | text :: requests =>
    entered n (if text ∈ newest n before then before else before ++ [text]) requests

/-- A queue of texts after a request. A text that it holds stays where it is. Any other text comes
    last, and the first one goes if there is no room. -/
def requested (capacity : Int) (texts : List String) (text : String) : List String :=
  if text ∈ texts ∨ capacity ≤ 0 then texts
  else if texts.length < capacity then texts ++ [text]
  else texts.tail ++ [text]

/-- Taking in a text keeps the last ones. -/
theorem requested_newest (capacity : Int) (before : List String) (text : String) :
    requested capacity (newest capacity.toNat before) text
      = newest capacity.toNat
          (if text ∈ newest capacity.toNat before then before else before ++ [text]) := by
  have hlength : (newest capacity.toNat before).length = min before.length capacity.toNat := by
    rw [newest, List.length_drop]
    omega
  by_cases hmem : text ∈ newest capacity.toNat before
  · rw [requested, if_pos (Or.inl hmem), if_pos hmem]
  · rw [if_neg hmem, requested]
    by_cases hpos : capacity ≤ 0
    · have hzero : capacity.toNat = 0 := by omega
      rw [if_pos (Or.inr hpos), hzero]
      simp [newest]
    · rw [if_neg (by simp [hmem, hpos]), hlength]
      by_cases hroom : ((min before.length capacity.toNat : Nat) : Int) < capacity
      · have hall : before.length + 1 ≤ capacity.toNat := by omega
        rw [if_pos hroom, newest, newest, List.length_append, List.length_singleton,
          Nat.sub_eq_zero_of_le hall, Nat.sub_eq_zero_of_le (by omega), List.drop_zero,
          List.drop_zero]
      · have hfull : capacity.toNat ≤ before.length := by omega
        have hnext : before.length + 1 - capacity.toNat = before.length - capacity.toNat + 1 := by
          omega
        rw [if_neg hroom, newest, newest, List.length_append, List.length_singleton, hnext,
          List.tail_drop, List.drop_append_of_le_length (by omega)]

/-- A queue holds the last of the texts that entered it. -/
theorem foldl_requested (capacity : Int) (requests : List String) : ∀ before : List String,
    requests.foldl (requested capacity) (newest capacity.toNat before)
      = newest capacity.toNat (entered capacity.toNat before requests) := by
  induction requests with
  | nil => exact fun before => rfl
  | cons text requests ih =>
      intro before
      rw [List.foldl_cons, requested_newest, ih, entered]

theorem nodup_requested {capacity : Int} {texts : List String} (h : texts.Nodup) (text : String) :
    (requested capacity texts text).Nodup := by
  have hlast {ts : List String} (hts : ts.Nodup) (hnew : text ∉ ts) : (ts ++ [text]).Nodup :=
    (List.perm_append_singleton text ts).nodup_iff.2 (List.nodup_cons.2 ⟨hnew, hts⟩)
  rw [requested]
  split
  · exact h
  · rename_i hnew
    have hmem : text ∉ texts := fun hmem => hnew (Or.inl hmem)
    split
    · exact hlast h hmem
    · exact hlast (h.sublist (List.tail_sublist texts)) fun ht => hmem (List.mem_of_mem_tail ht)

theorem length_requested_le {capacity : Int} {texts : List String}
    (h : (texts.length : Int) ≤ max capacity 0) (text : String) :
    ((requested capacity texts text).length : Int) ≤ max capacity 0 := by
  rw [requested]
  split
  · exact h
  · split
    · rw [List.length_append, List.length_singleton]
      omega
    · rw [List.length_append, List.length_tail, List.length_singleton]
      omega

/-- Requests keep the texts of a queue distinct and no more than fit. -/
theorem foldl_requested_fits {capacity : Int} (requests : List String) : ∀ {texts : List String},
    texts.Nodup → (texts.length : Int) ≤ max capacity 0 →
      (requests.foldl (requested capacity) texts).Nodup ∧
      ((requests.foldl (requested capacity) texts).length : Int) ≤ max capacity 0 := by
  induction requests with
  | nil => exact fun hnodup hlength => ⟨hnodup, hlength⟩
  | cons text requests ih =>
      exact fun hnodup hlength => ih (nodup_requested hnodup text) (length_requested_le hlength text)

/-! ## One look-up -/

namespace Cache

theorem lookup_eq_none {c : Cache} {text : String} :
    c.entries.lookup text = none ↔ text ∉ c.texts := by
  rw [List.lookup_eq_none_iff, texts, List.mem_map]
  constructor
  · rintro h ⟨entry, hentry, rfl⟩
    exact (bne_iff_ne.1 (h entry hentry)) rfl
  · exact fun h entry hentry => bne_iff_ne.2 fun he => h ⟨entry, hentry, he.symm⟩

/-- A text that is cached is found, and the cache stays as it is. -/
theorem parse_of_mem {c : Cache} {text : String} (h : text ∈ c.texts) : (c.parse text).1 = c := by
  rw [parse]
  split
  · rfl
  · rename_i hnone
    exact absurd h (lookup_eq_none.1 hnone)

theorem parse_of_not_mem {c : Cache} {text : String} (h : text ∉ c.texts) :
    (c.parse text).1 = c.store text (Template.parse text) rfl := by
  rw [parse]
  split
  · rename_i hsome
    rw [lookup_eq_none.2 h] at hsome
    cases hsome
  · rfl

theorem store_of_nonpos {c : Cache} (hc : c.capacity ≤ 0) {text : String} {nodes : Template}
    (h : nodes = Template.parse text) : c.store text nodes h = c :=
  if_neg (by omega)

theorem texts_store_of_pos {c : Cache} (hc : 0 < c.capacity) {text : String} {nodes : Template}
    (h : nodes = Template.parse text) :
    (c.store text nodes h).texts = c.kept.map (·.1) ++ [text] := by
  rw [store, if_pos hc, texts, List.map_append]
  rfl

/-- The cached texts are a queue of the texts that are looked up. -/
theorem texts_parse (c : Cache) (text : String) :
    (c.parse text).1.texts = requested c.capacity c.texts text := by
  by_cases hmem : text ∈ c.texts
  · rw [parse_of_mem hmem, requested, if_pos (Or.inl hmem)]
  · rw [parse_of_not_mem hmem, requested]
    by_cases hpos : c.capacity ≤ 0
    · rw [store_of_nonpos hpos, if_pos (Or.inr hpos)]
    · have hlength : c.texts.length = c.entries.length := List.length_map _
      rw [if_neg (by simp [hmem, hpos]), texts_store_of_pos (by omega), hlength, kept]
      by_cases hfull : c.capacity ≤ c.entries.length
      · rw [if_pos hfull, if_neg (by omega), List.map_drop, List.drop_one, texts]
      · rw [if_neg hfull, if_pos (by omega), texts]

/-- Looking up a text again changes nothing more. -/
theorem parse_parse (c : Cache) (text : String) :
    ((c.parse text).1.parse text).1 = (c.parse text).1 := by
  by_cases hpos : c.capacity ≤ 0
  · by_cases hmem : text ∈ c.texts
    · rw [parse_of_mem hmem, parse_of_mem hmem]
    · rw [parse_of_not_mem hmem, store_of_nonpos hpos, parse_of_not_mem hmem, store_of_nonpos hpos]
  · have hmem : text ∈ (c.parse text).1.texts := by
      rw [texts_parse, requested]
      split
      · rename_i h
        exact h.resolve_right hpos
      · split <;> exact List.mem_append_right _ (List.mem_singleton_self text)
    exact parse_of_mem hmem

/-- The cache after a text has been looked up, if any is. -/
def look (c : Cache) (text? : Option String) : Cache :=
  match text? with
  | some text => (c.parse text).1
  | none => c

/-- Each cached template is the one that its text is. -/
theorem entries_eq (c : Cache) :
    c.entries = c.texts.map fun text => (text, Template.parse text) := by
  rw [texts, List.map_map]
  exact (List.map_id _).symm.trans (List.map_congr_left fun entry h => by
    rw [id, Function.comp_apply, ← c.parsed entry h])

end Cache

/-! ## One operation -/

/-- An operation that may change the cache: a text is compiled or rendered, or a batch is rendered,
    whose template has not been refused. -/
def Operation.MayStore (e : Engine) : Operation → Prop
  | .compile _ => True
  | .render _ _ _ => True
  | .batch _ template _ _ _ => e.batchFault? template = .ok none
  | _ => False

namespace Engine

/-- The engine with another cache. -/
def withCache (e : Engine) (c : Cache) : Engine := { e with cache := c }

/-- The text that is looked up to render a page: none if the template is no text, or if the data or
    the options are not fit for a page. -/
def pageLookup? (e : Engine) (template data options : Value) : Option String :=
  match template, (e.scope data options).outcome with
  | .str s, .ok _ => some (e.source s)
  | _, _ => none

/-- The text that is looked up to render some pages with one template: the same for each of them, so
    only the first one matters. -/
def pagesLookup? (e : Engine) (template options : Value) (pages : List Value) : Option String :=
  pages.head?.bind fun data => e.pageLookup? template data options

/-- The text that an operation looks up. -/
def lookup? (e : Engine) : Operation → Option String
  | .compile text => some text
  | .render template data options => e.pageLookup? template data options
  | .batch _ template pages options _ =>
    match e.batchFault? template with
    | .ok none => e.pagesLookup? template options pages
    | _ => none
  | _ => none

theorem lookup?_of_not_mayStore {e : Engine} {op : Operation} (h : ¬ op.MayStore e) :
    e.lookup? op = none := by
  cases op with
  | compile text => exact absurd trivial h
  | render template data options => exact absurd trivial h
  | batch logging template pages options listener =>
      rw [lookup?]
      split
      · rename_i hnone
        exact absurd hnone h
      · rfl
  | _ => rfl

variable [Attributes]

/-- A page is the same whatever is cached, and its template is looked up once. -/
theorem render_withCache (e : Engine) (c : Cache) (template data options : Value) :
    (e.withCache c).render template data options
      = (e.withCache (c.look (e.pageLookup? template data options)),
          (e.render template data options).2) := by
  cases template with
  | str s =>
      have hscope : (e.withCache c).scope data options = e.scope data options := rfl
      simp only [render, renderText, pageLookup?, hscope]
      cases (e.scope data options).outcome with
      | error fault => rfl
      | ok scope =>
          simp only [process_eq]
          rfl
  | _ => rfl

theorem render_fst (e : Engine) (template data options : Value) :
    (e.render template data options).1
      = e.withCache (e.cache.look (e.pageLookup? template data options)) :=
  congrArg (·.1) (e.render_withCache e.cache template data options)

/-- Of a page that could be rendered, the template has been looked up. -/
theorem pageLookup?_of_ok {e : Engine} {template data options : Value} {page : String}
    (h : (e.render template data options).2.outcome = .ok page) :
    ∃ s, template = .str s ∧ e.pageLookup? template data options = some (e.source s) := by
  cases template with
  | str s =>
      refine ⟨s, rfl, ?_⟩
      simp only [render, renderText] at h
      unfold pageLookup?
      cases hscope : (e.scope data options).outcome with
      | error fault =>
          rw [hscope] at h
          cases h
      | ok scope => rfl
  | _ => cases h

end Engine

/-- The batch with another engine. -/
def BatchRun.withEngine (run : BatchRun) (e : Engine) : BatchRun :=
  { run with engine := e }

/-- The batch with another cache. -/
def BatchRun.withCache (run : BatchRun) (c : Cache) : BatchRun :=
  { run with engine := run.engine.withCache c }

namespace Engine

theorem reportIf_withEngine (due : Nat → Bool) (listener : Option ProgressListener)
    (run : BatchRun) (e : Engine) :
    reportIf due listener (run.withEngine e)
      = ((reportIf due listener run).1.withEngine e, (reportIf due listener run).2) := by
  cases listener with
  | none => rfl
  | some f =>
      have hpending : (run.withEngine e).pending = run.pending := rfl
      rw [reportIf, reportIf, hpending]
      split <;> rfl

theorem engine_reportIf (due : Nat → Bool) (listener : Option ProgressListener) (run : BatchRun) :
    (reportIf due listener run).1.engine = run.engine := by
  cases listener with
  | none => rfl
  | some f =>
      rw [reportIf]
      split <;> rfl

theorem reportIf_withCache (due : Nat → Bool) (listener : Option ProgressListener)
    (run : BatchRun) (c : Cache) :
    reportIf due listener (run.withCache c)
      = ((reportIf due listener run).1.withCache c, (reportIf due listener run).2) := by
  rw [BatchRun.withCache, BatchRun.withCache, engine_reportIf]
  exact reportIf_withEngine due listener run (run.engine.withCache c)

theorem finishBatch_withCache (logging : Logging) (listener : Option ProgressListener) (total : Nat)
    (run : BatchRun) (t : Traced Unit) (c : Cache) :
    finishBatch logging listener total (run.withCache c) t
      = { finishBatch logging listener total run t with
          engine := (finishBatch logging listener total run t).engine.withCache c } := by
  simp only [finishBatch]
  cases t.outcome with
  | error fault => rfl
  | ok u =>
      simp only [reportIf_withCache]
      rfl

variable [Attributes]

/-- After a page has been rendered, looking up the same template for others changes nothing. -/
theorem look_pagesLookup? {e : Engine} {template data options : Value} {page : String}
    (h : (e.render template data options).2.outcome = .ok page) (c : Cache) (pages : List Value) :
    (c.look (e.pageLookup? template data options)).look (e.pagesLookup? template options pages)
      = c.look (e.pageLookup? template data options) := by
  obtain ⟨s, rfl, hlookup⟩ := pageLookup?_of_ok h
  rw [hlookup]
  cases pages with
  | nil => rfl
  | cons data' pages =>
      have hsame : e.pagesLookup? (.str s) options (data' :: pages) = none ∨
          e.pagesLookup? (.str s) options (data' :: pages) = some (e.source s) := by
        simp only [pagesLookup?, List.head?_cons, Option.bind_some, pageLookup?]
        cases (e.scope data' options).outcome with
        | error fault => exact Or.inl rfl
        | ok scope => exact Or.inr rfl
      rcases hsame with hnone | hsome
      · rw [hnone]
        rfl
      · rw [hsome]
        exact c.parse_parse _

/-- Pages are the same whatever is cached, and their template is looked up as for the first one. -/
theorem renderPages_withCache (template options : Value) (listener : Option ProgressListener)
    (logging : Logging) (pages : List Value) : ∀ (i : Nat) (run : BatchRun) (c : Cache),
    renderPages template options listener logging i (run.withCache c) pages
      = ((renderPages template options listener logging i run pages).1.withCache
            (c.look (run.engine.pagesLookup? template options pages)),
          (renderPages template options listener logging i run pages).2) := by
  induction pages with
  | nil => exact fun i run c => rfl
  | cons data pages ih =>
      intro i run c
      have hfst := run.engine.render_fst template data options
      have hother : (run.withCache c).engine.render template data options = _ :=
        run.engine.render_withCache c template data options
      rw [renderPages, renderPages, hother]
      rcases hpage : run.engine.render template data options with ⟨engine, page⟩
      rw [hpage] at hfst
      dsimp only at hfst ⊢
      cases hout : page.outcome with
      | error fault =>
          dsimp only
          rw [hfst]
          rfl
      | ok text =>
          have hnext : (run.withCache c).addPage
                (run.engine.withCache (c.look (run.engine.pageLookup? template data options))) i text
                (logging.filter page.log)
              = (run.addPage engine i text (logging.filter page.log)).withCache
                  (c.look (run.engine.pageLookup? template data options)) := by
            rw [hfst]
            rfl
          dsimp only
          rw [hnext, reportIf_withCache]
          -- The other pages go on from there, unless the listener fails.
          rcases hafter : reportIf _ listener (run.addPage engine i text (logging.filter page.log))
            with ⟨after, fault | ⟨⟩⟩
          · rfl
          · have hengine : after.engine = engine := by
              have h := engine_reportIf (· = progressStep) listener
                (run.addPage engine i text (logging.filter page.log))
              rwa [hafter] at h
            have hagain : after.engine.pagesLookup? template options pages
                = run.engine.pagesLookup? template options pages := by
              rw [hengine, hfst]
              rfl
            have hpage' : (run.engine.render template data options).2.outcome = .ok text := by
              rw [hpage]
              exact hout
            dsimp only
            -- Their template is cached by now, so the look-up of the first page is the only one.
            rw [ih, hagain, look_pagesLookup? hpage']
            rfl

/-- A batch is the same whatever is cached. Its template is looked up for the first page, unless it
    has been refused. -/
theorem renderBatch_withCache (e : Engine) (c : Cache) (logging : Logging) (template : Value)
    (pages : List Value) (options : Value) (listener : Option ProgressListener) :
    (e.withCache c).renderBatch logging template pages options listener
      = { e.renderBatch logging template pages options listener with
          engine := (e.renderBatch logging template pages options listener).engine.withCache
            (c.look (e.lookup? (.batch logging template pages options listener))) } := by
  have hfault : (e.withCache c).batchFault? template = e.batchFault? template := by
    cases template <;> rfl
  simp only [renderBatch, lookup?, hfault]
  cases e.batchFault? template with
  | error fault => rfl
  | ok fault? =>
      cases fault? with
      | some fault => rfl
      | none =>
          have hpages : renderPages template options listener logging.collecting 0
              ⟨e.withCache c, [], [], 0, []⟩ pages = _ :=
            renderPages_withCache template options listener logging.collecting pages 0
              ⟨e, [], [], 0, []⟩ c
          simp only [Logging.whileCollecting, hpages]
          exact finishBatch_withCache _ listener pages.length _ _ _

theorem registerCards_withCache (c : Cache) (cards : List Card) : ∀ e : Engine,
    cards.foldl (fun e card => e.registerComponent card.name card.component) (e.withCache c)
      = (cards.foldl (fun e card => e.registerComponent card.name card.component) e).withCache
          c := by
  induction cards with
  | nil => exact fun e => rfl
  | cons card cards ih => exact fun e => ih (e.registerComponent card.name card.component)

/-- An operation is answered the same whatever is cached, and it does the same to all but the cache,
    in which it looks up one text or none. -/
theorem perform_withCache (e : Engine) (c : Cache) (op : Operation) :
    (e.withCache c).perform op
      = ((e.perform op).1.withCache (c.look (e.lookup? op)), (e.perform op).2) := by
  cases op with
  | registerSite =>
      simp only [perform, registerSite, registerCards_withCache]
      rfl
  | compile text =>
      have hnodes : ((e.withCache c).compile text).2 = (e.compile text).2 := by
        rw [compile_snd, compile_snd]
      rw [perform, perform, hnodes]
      rfl
  | render template data options =>
      rw [perform, perform, render_withCache, render_fst]
      rfl
  | batch logging template pages options listener =>
      rw [perform, perform, renderBatch_withCache]
  | _ => rfl

/-- What an operation does to the cache. -/
theorem cache_perform (e : Engine) (op : Operation) :
    (e.perform op).1.cache = e.cache.look (e.lookup? op) :=
  congrArg (·.1.cache) (e.perform_withCache e.cache op)

/-! ## Sessions -/

/-- The texts that are looked up in a session. -/
def lookups (e : Engine) : List Operation → List String
  | [] => []
  | op :: ops => (e.lookup? op).toList ++ lookups (e.perform op).1 ops

/-- A session is answered the same whatever is cached at first. -/
theorem run_withCache (ops : List Operation) : ∀ (e : Engine) (c : Cache),
    (e.withCache c).run ops
      = ((e.run ops).1.withCache ((e.lookups ops).foldl (fun c text => (c.parse text).1) c),
          (e.run ops).2) := by
  induction ops with
  | nil => exact fun e c => rfl
  | cons op ops ih =>
      intro e c
      rw [run, run, perform_withCache]
      dsimp only
      rw [ih, lookups, List.foldl_append]
      cases e.lookup? op <;> rfl

end Engine

/-- The cached texts after some look-ups. -/
theorem Cache.foldl_parse (requests : List String) : ∀ c : Cache,
    (requests.foldl (fun c text => (c.parse text).1) c).capacity = c.capacity ∧
    (requests.foldl (fun c text => (c.parse text).1) c).texts
      = requests.foldl (requested c.capacity) c.texts := by
  induction requests with
  | nil => exact fun c => ⟨rfl, rfl⟩
  | cons text requests ih =>
      intro c
      have h := ih (c.parse text).1
      rwa [capacity_parse, texts_parse] at h

namespace Engine

section

variable [Attributes]

/-- **The cache is a queue that no answer shows.** After any session of an engine that starts with an
    empty cache, whatever the capacity:

    * the cached texts are distinct, there are no more of them than the capacity, and each is kept
      with the template that it is;
    * they are the last of the texts that entered the cache, oldest first, where a text enters when
      it is looked up and not cached;
    * another operation looks up one text or none: a cached text changes nothing, any other comes
      last, and the oldest one goes if there is no room;
    * an operation changes nothing in the cache unless it compiles or renders a text, or a batch
      with a template that is not refused;
    * all answers are those of the same session with a capacity of zero. -/
theorem run_cache (e : Engine) (capacity : Int) (ops : List Operation) :
    let fresh := e.withCache (.empty capacity)
    let now := (fresh.run ops).1
    now.cache.texts.Nodup ∧
    (now.cache.texts.length : Int) ≤ max capacity 0 ∧
    now.cache.entries = now.cache.texts.map (fun text => (text, Template.parse text)) ∧
    now.cache.texts = newest capacity.toNat (entered capacity.toNat [] (fresh.lookups ops)) ∧
    (∀ op, (now.perform op).1.cache.texts
      = (now.lookup? op).elim now.cache.texts (requested capacity now.cache.texts)) ∧
    (∀ op : Operation, ¬ op.MayStore now → (now.perform op).1.cache = now.cache) ∧
    (fresh.run ops).2 = ((e.withCache (.empty 0)).run ops).2 := by
  intro fresh now
  have hcache : now.cache
      = (fresh.lookups ops).foldl (fun c text => (c.parse text).1) (.empty capacity) :=
    congrArg (·.1.cache) (run_withCache ops fresh (.empty capacity))
  have hcapacity : now.cache.capacity = capacity := by
    rw [hcache, (Cache.foldl_parse _ _).1]
    rfl
  have htexts : now.cache.texts = (fresh.lookups ops).foldl (requested capacity) [] := by
    rw [hcache, (Cache.foldl_parse _ _).2]
    rfl
  have hfits : now.cache.texts.Nodup ∧ (now.cache.texts.length : Int) ≤ max capacity 0 := by
    rw [htexts]
    exact foldl_requested_fits _ List.nodup_nil (Int.le_max_right capacity 0)
  have hnewest : now.cache.texts
      = newest capacity.toNat (entered capacity.toNat [] (fresh.lookups ops)) := by
    have hstart : newest capacity.toNat [] = [] := List.drop_nil
    rw [htexts, ← foldl_requested, hstart]
  refine ⟨hfits.1, hfits.2, now.cache.entries_eq, hnewest, fun op => ?_, fun op hop => ?_, ?_⟩
  · rw [cache_perform]
    cases now.lookup? op with
    | none => rfl
    | some text =>
        have htext := now.cache.texts_parse text
        rwa [hcapacity] at htext
  · rw [cache_perform, lookup?_of_not_mayStore hop]
    rfl
  · have hfresh := run_withCache ops e (.empty capacity)
    have hzero := run_withCache ops e (.empty 0)
    rw [hfresh, hzero]

end

/-- A cached text does not grow younger when it is looked up again, so it is the first to go. -/
theorem run_cache_compiled :
    let now := (((bare 0 []).withCache (.empty 2)).run
      [.compile "a", .compile "b", .compile "a", .compile "c"]).1
    now.cache.texts = ["b", "c"] ∧
    ¬ (Operation.validate "d").MayStore now ∧
    (now.perform (.validate "d")).1.cache = now.cache := by
  intro now
  obtain ⟨-, -, -, hnewest, -, hother, -⟩ :=
    run_cache (bare 0 []) 2 [.compile "a", .compile "b", .compile "a", .compile "c"]
  have hvalidate : ¬ (Operation.validate "d").MayStore now := not_false
  exact ⟨hnewest.trans (by decide), hvalidate, hother _ hvalidate⟩

end Engine

end Stencil
