import Stencil.Config.Loader
import Stencil.Proofs.Endings
import Stencil.Proofs.Normalization
import Stencil.Proofs.Reordering

set_option autoImplicit false

/-! # Templates from files

An engine that is built from settings with a template directory has the templates of the files in it
and those of the settings themselves, and none is lost (`buildEngine_merges`). Each file whose name
has the ending makes one template: the names of the files are distinct, and so are their stems, as
all of them lose the same ending. A template of the settings takes the text of a file of its name,
but not its place. -/

namespace Stencil

-- Names are ordered by their characters, whatever other order lists are given.
attribute [local instance (2000)] List.instLE List.decidableLE

/-! ## Registering in turn -/

namespace Registry

variable {α : Type}

theorem get?_cons (name other : String) (a : α) (r : Registry α) :
    get? ((name, a) :: r) other = if other = name then some a else r.get? other := by
  by_cases h : other = name
  · simp [get?, h]
  · simp [get?, List.lookup_cons, beq_eq_false_iff_ne.2 h, h]

theorem get?_eq_none {r : Registry α} {name : String} (h : name ∉ r.names) :
    r.get? name = none := by
  rw [← Option.not_isSome_iff_eq_none, ← contains_names, List.contains_iff_mem]
  exact h

/-- Of distinct names, those that are registered last count. -/
theorem get?_insertAll {added : Registry α} (h : added.names.Nodup) : ∀ (r : Registry α)
    (name : String), (r.insertAll added).get? name = (added.get? name).or (r.get? name) := by
  induction added with
  | nil => exact fun r name => rfl
  | cons f added ih =>
      intro r name
      obtain ⟨n, a⟩ := f
      obtain ⟨hnew, h⟩ := List.nodup_cons.1 h
      have hstep : r.insertAll ((n, a) :: added) = (r.insert n a).insertAll added := rfl
      rw [hstep, ih h, get?_insert, get?_cons]
      by_cases hname : name = n
      · rw [if_pos hname, if_pos hname, get?_eq_none (hname ▸ hnew)]
        rfl
      · rw [if_neg hname, if_neg hname]

/-- Distinct names that are new come last, in their order. -/
theorem names_insertAll {added : Registry α} (h : added.names.Nodup) : ∀ r : Registry α,
    (r.insertAll added).names = r.names ++ added.names.filter (· ∉ r.names) := by
  induction added with
  | nil => exact fun r => (List.append_nil _).symm
  | cons f added ih =>
      intro r
      obtain ⟨n, a⟩ := f
      obtain ⟨hnew, h⟩ := List.nodup_cons.1 h
      have hstep : r.insertAll ((n, a) :: added) = (r.insert n a).insertAll added := rfl
      have hnames : names ((n, a) :: added) = n :: names added := rfl
      rw [hstep, ih h, names_insert, hnames, List.filter_cons]
      by_cases hmem : n ∈ r.names
      · simp [hmem]
      · have hrest : (names added).filter (· ∉ r.names ++ [n])
            = (names added).filter (· ∉ r.names) := by
          refine List.filter_congr fun m hm => ?_
          have hne : m ≠ n := fun heq => hnew (heq ▸ hm)
          simp [hne]
        rw [if_neg hmem, hrest, if_pos (by simpa using hmem), List.append_assoc,
          List.singleton_append]

end Registry

theorem Engine.foldl_registerTemplate (added : Registry String) : ∀ e : Engine,
    added.foldl (fun e f => e.registerTemplate f.1 f.2) e
      = { e with templates := e.templates.insertAll added } := by
  induction added with
  | nil => exact fun e => rfl
  | cons f added ih =>
      intro e
      rw [List.foldl_cons, ih]
      rfl

section

variable [Attributes]

/-- The engine that the settings ask for before any template is registered. -/
def Settings.emptyEngine (s : Settings) : Engine :=
  let e := Engine.standard s.cacheSize s.options
  if s.siteComponents then e.registerSite else e

theorem Settings.templates_emptyEngine (s : Settings) : s.emptyEngine.templates = [] := by
  unfold emptyEngine
  split <;> rfl

/-! ## Directories -/

end

namespace FileTree

variable {t : FileTree} {directory d : Location} {name raw : String} {ending : String}

/-- What is reached from a directory is reached from whatever leads to it. -/
theorem walk_append {names : List String} : ∀ {l d : Location},
    t.walk l names = some (.directory d) → ∀ more, t.walk l (names ++ more) = t.walk d more := by
  induction names with
  | nil =>
      intro l d h more
      cases h
      rfl
  | cons n names ih =>
      intro l d h more
      rw [walk] at h
      rw [List.cons_append, walk]
      split at h
      · split at h <;> cases h
      · split at h
        · rename_i hdirectory
          rw [if_pos hdirectory]
          exact ih h more
        · cases h

theorem find?_child (h : t.find? directory = some (.directory d)) (name : String) :
    t.find? (directory.child name) = t.walk d [name] :=
  walk_append h [name]

/-- A file is among the names in its directory. -/
theorem mem_children (h : t.find? directory = some (.directory d)) (hname : name ≠ "..")
    (hfile : t.find? (directory.child name) = some (.file raw)) : name ∈ t.children d := by
  rw [find?_child h, walk, Location.step_eq_child hname] at hfile
  cases hlookup : t.files.lookup (d.child name) with
  | none =>
      simp only [hlookup, walk] at hfile
      split at hfile <;> cases hfile
  | some text =>
      obtain ⟨before, after, hfiles, -⟩ := List.lookup_eq_some_iff.1 hlookup
      have hmem : d.child name ∈ t.files.map (·.1) ++ t.directories := by simp [hfiles]
      rw [children, List.mem_mergeSort, List.mem_eraseDups]
      exact List.mem_filterMap.2 ⟨d.child name, hmem, Location.nameIn?_child d name⟩

theorem pairwise_children (t : FileTree) (d : Location) : (t.children d).Pairwise (· < ·) :=
  pairwise_sortedDistinct _

/-! ## Files with an ending -/

/-- An ending that starts with a point and stands for itself in a name pattern. -/
structure IsEnding (ending : List Char) : Prop where
  head : ending.head? = some '.'
  literal : ∀ c ∈ ending, Glob.isSpecial c = false ∧ c ≠ '/'

/-- The names in a directory that have an ending, in ascending order. -/
def namesEnding (t : FileTree) (d : Location) (ending : String) : List String :=
  (t.children d).filter fun n => ending.toList.isSuffixOf n.toList

theorem mem_namesEnding :
    name ∈ t.namesEnding d ending ↔ name ∈ t.children d ∧ ending.toList <:+ name.toList := by
  rw [namesEnding, List.mem_filter, List.isSuffixOf_iff_suffix]

theorem pairwise_namesEnding (t : FileTree) (d : Location) (ending : String) :
    (t.namesEnding d ending).Pairwise (· < ·) :=
  (pairwise_children t d).filter _

section

variable (h : IsEnding ending.toList)

include h

/-- The pattern of an ending is for names of one level. -/
theorem suffixPatterns_eq : suffixPatterns ending = ['*' :: ending.toList] := by
  have hslash : '/' ∉ '*' :: ending.toList := by
    rw [List.mem_cons, not_or]
    exact ⟨by decide, fun hmem => (h.literal _ hmem).2 rfl⟩
  simp [suffixPatterns, splitOn_of_not_mem hslash]

theorem isBadPattern_eq_false : isBadPattern ('*' :: ending.toList) = false := by
  have hstars : ∀ {cs : List Char}, '*' ∉ cs → hasDoubleStar cs = false := by
    intro cs hcs
    fun_induction hasDoubleStar cs with
    | case1 => simp at hcs
    | case2 c cs _ ih => exact ih fun hmem => hcs (List.mem_cons_of_mem c hmem)
    | case3 => rfl
  have hnone : '*' ∉ ending.toList := fun hmem => by cases (h.literal _ hmem).1
  rw [isBadPattern, hasDoubleStar, hstars hnone, Bool.and_false]
  exact fun tail _ heq => hnone (heq ▸ List.mem_cons_self)

theorem select_eq (hdirectory : t.find? directory = some (.directory d)) :
    t.select directory (suffixPatterns ending) = (t.namesEnding d ending).map directory.child := by
  have hdepth : '*' :: ending.toList ≠ anyDepth := by
    intro heq
    have hhead := h.head
    rw [List.cons_inj_right '*' |>.1 heq] at hhead
    cases hhead
  have hfilter : (t.children d).filter (Glob.accepts ('*' :: ending.toList))
      = t.namesEnding d ending := by
    refine List.filter_congr fun n _ => Bool.eq_iff_iff.2 ?_
    rw [Glob.accepts_star fun c hc => (h.literal c hc).1, List.isSuffixOf_iff_suffix]
  rw [suffixPatterns_eq h, select, hdirectory]
  simp only [if_neg hdepth, hfilter, select]
  exact List.map_eq_flatMap.symm

theorem withSuffix_eq (hdirectory : t.find? directory = some (.directory d)) :
    t.withSuffix directory ending = (t.namesEnding d ending).map directory.child := by
  have hnodup : ((t.namesEnding d ending).map directory.child).Nodup := by
    refine List.pairwise_map.2 ((pairwise_namesEnding t d ending).imp fun {m n} hlt heq => ?_)
    have hnames : directory.names ++ [m] = directory.names ++ [n] := congrArg Location.names heq
    exact String.ne_of_lt hlt (List.singleton_inj.1 (List.append_cancel_left hnames))
  have hslash : ending.toList.getLast? ≠ some '/' := fun hlast =>
    (h.literal _ (List.mem_of_getLast? hlast)).2 rfl
  have hsorted : ((t.namesEnding d ending).map directory.child).Pairwise
      fun a b => decide (a.names ≤ b.names) = true := by
    refine List.pairwise_map.2 ((pairwise_namesEnding t d ending).imp fun {m n} hlt => ?_)
    refine decide_eq_true (List.append_left_le (Std.le_of_lt ?_))
    exact List.Lex.rel hlt
  rw [withSuffix, select_eq h hdirectory, eraseDups_of_nodup hnodup, if_neg hslash]
  exact List.mergeSort_of_pairwise hsorted

end

/-! ## Templates from files -/

/-- What there is in a directory under the names with an ending: files only, whose names do not
    start with a point. -/
structure HoldsTemplates (t : FileTree) (directory d : Location) (ending : String) : Prop where
  isDirectory : t.find? directory = some (.directory d)
  isFile : ∀ name ∈ t.children d, ending.toList <:+ name.toList →
    name.toList.head? ≠ some '.' ∧ ∃ raw, t.find? (directory.child name) = some (.file raw)

/-- The template that a file in a directory makes: its text as it is read, under the stem of its
    name. -/
def Makes (t : FileTree) (directory : Location) (name : String) (template : String × String) :
    Prop :=
  ∃ raw, t.find? (directory.child name) = some (.file raw) ∧
    template = ((directory.child name).stem, String.ofList (Text.unifiedLines raw.toList))

theorem exists_makes {names : List String}
    (h : ∀ name ∈ names, ∃ raw, t.find? (directory.child name) = some (.file raw)) :
    ∃ added, List.Forall₂ (t.Makes directory) names added := by
  induction names with
  | nil => exact ⟨[], .nil⟩
  | cons name names ih =>
      obtain ⟨⟨raw, hraw⟩, h⟩ := List.forall_mem_cons.1 h
      obtain ⟨added, hadded⟩ := ih h
      exact ⟨_ :: added, .cons ⟨raw, hraw, rfl⟩ hadded⟩

/-- Files are registered in turn. -/
theorem registerFiles_eq {names : List String} {added : List (String × String)}
    (h : List.Forall₂ (t.Makes directory) names added) : ∀ e : Engine,
    t.registerFiles e (names.map directory.child)
      = .ok { e with templates := e.templates.insertAll added } := by
  induction h with
  | nil => exact fun e => rfl
  | @cons name template names added hmakes _ ih =>
      intro e
      obtain ⟨raw, hraw, rfl⟩ := hmakes
      have htext : t.readText (directory.child name)
          = .ok (some (String.ofList (Text.unifiedLines raw.toList))) := by
        rw [readText, hraw]
      rw [List.map_cons, registerFiles, htext]
      exact ih _

theorem stem_child (directory : Location) (name : String) :
    (directory.child name).stem = (Location.splitName name).1 := by
  simp [Location.stem, Location.name, Location.child]

theorem map_fst_of_makes {names : List String} {added : List (String × String)}
    (h : List.Forall₂ (t.Makes directory) names added) :
    added.map Prod.fst = names.map fun name => (Location.splitName name).1 := by
  induction h with
  | nil => rfl
  | cons hmakes _ ih =>
      obtain ⟨raw, -, rfl⟩ := hmakes
      rw [List.map_cons, List.map_cons, ih, stem_child]

/-- Files whose names have the same ending make templates of different names. -/
theorem nodup_of_makes (hending : IsEnding ending.toList)
    (hheld : t.HoldsTemplates directory d ending) {added : List (String × String)}
    (h : List.Forall₂ (t.Makes directory) (t.namesEnding d ending) added) :
    (added.map Prod.fst).Nodup := by
  have hplain {name : String} (hname : name ∈ t.namesEnding d ending) :
      ending.toList <:+ name.toList ∧ name.toList.head? ≠ some '.' := by
    obtain ⟨hchild, hsuffix⟩ := mem_namesEnding.1 hname
    exact ⟨hsuffix, (hheld.isFile name hchild hsuffix).1⟩
  rw [map_fst_of_makes h]
  refine List.pairwise_map.2 ((pairwise_namesEnding t d ending).imp_of_mem fun hm hn hlt heq => ?_)
  refine String.ne_of_lt hlt ?_
  exact Location.splitName_injective hending.head (hplain hm).1 (hplain hm).2 (hplain hn).1
    (hplain hn).2 heq

/-- Loading registers what the files make and counts it. -/
theorem loadTemplates_eq (hending : IsEnding ending.toList)
    (hdirectory : t.find? directory = some (.directory d)) {added : List (String × String)}
    (h : List.Forall₂ (t.Makes directory) (t.namesEnding d ending) added) (e : Engine) :
    t.loadTemplates e directory ending
      = ⟨[.templatesRegistered added.length directory.text],
          .ok ({ e with templates := e.templates.insertAll added }, added.length)⟩ := by
  have hpattern : (suffixPatterns ending).any isBadPattern = false := by
    rw [suffixPatterns_eq hending, List.any_cons, isBadPattern_eq_false hending]
    rfl
  have hlength : (t.withSuffix directory ending).length = added.length := by
    rw [withSuffix_eq hending hdirectory, List.length_map, h.length_eq]
  rw [loadTemplates, hdirectory]
  simp only [hpattern, hlength]
  rw [withSuffix_eq hending hdirectory, registerFiles_eq h]
  rfl

theorem loadTemplates_of_no_directory (h : ∀ d, t.find? directory ≠ some (.directory d))
    (e : Engine) : t.loadTemplates e directory ending = .fail (.noDirectory directory.text) := by
  unfold loadTemplates
  split
  · rename_i d hd
    exact absurd hd (h d)
  · rfl

section

variable [Attributes]

/-- The templates of the settings are registered after those of the files. -/
theorem buildEngine_eq (t : FileTree) (s : Settings) (directory : Location) :
    t.buildEngine { s with templateDirectory := some directory } = do
      let (e, _) ← t.loadTemplates s.emptyEngine directory s.templateSuffix
      return { e with templates := e.templates.insertAll s.templates } := by
  unfold buildEngine
  simp only [Engine.foldl_registerTemplate]
  rfl

/-- **No template is lost in building an engine.** Let the settings be read from a mapping, with an
    ending all of whose characters stand for themselves.

    If the template directory holds only files under the names with this ending, then each of them
    makes a template, in the order of their names. The templates have different names, and loading
    them into any engine registers all and counts them. In the engine that is built there is under
    each name the template of the settings, or else that of the file; first come the names of the
    files, and then those that only the settings have.

    If there is no such directory, nothing is loaded and no engine is built. -/
theorem buildEngine_merges [Coercions] {es : Entries} {s : Settings}
    (hread : Settings.read es = .ok s)
    (hliteral : ∀ c ∈ s.templateSuffix.toList, Glob.isSpecial c = false ∧ c ≠ '/') (t : FileTree)
    (directory : Location) :
    (∀ d, t.HoldsTemplates directory d s.templateSuffix →
      ∃ (found : List String) (added : List (String × String)),
        found.Pairwise (· < ·) ∧
        (∀ name, name ∈ found ↔ name.toList.head? ≠ some '.' ∧
          s.templateSuffix.toList <:+ name.toList ∧
          ∃ raw, t.find? (directory.child name) = some (.file raw)) ∧
        List.Forall₂ (t.Makes directory) found added ∧
        (added.map Prod.fst).Nodup ∧
        (∀ e : Engine, t.loadTemplates e directory s.templateSuffix
          = ⟨[.templatesRegistered added.length directory.text],
              .ok ({ e with templates := e.templates.insertAll added }, added.length)⟩) ∧
        ∃ e : Engine, t.buildEngine { s with templateDirectory := some directory }
            = ⟨[.templatesRegistered added.length directory.text], .ok e⟩ ∧
          (∀ name, e.templates.get? name = (s.templates.lookup name).or (added.lookup name)) ∧
          e.templates.names = added.map Prod.fst ++
            (s.templates.map Prod.fst).filter (· ∉ added.map Prod.fst)) ∧
    ((∀ d, t.find? directory ≠ some (.directory d)) →
      (∀ e : Engine, t.loadTemplates e directory s.templateSuffix
        = .fail (.noDirectory directory.text)) ∧
      t.buildEngine { s with templateDirectory := some directory }
        = .fail (.noDirectory directory.text)) := by
  have hcanonical : s.Canonical := (Settings.meant_of_read hread).canonical
  have hending : IsEnding s.templateSuffix.toList := ⟨hcanonical.templateSuffix, hliteral⟩
  refine ⟨fun d hheld => ?_, fun hnone => ?_⟩
  · have hfound : ∀ name, name ∈ t.namesEnding d s.templateSuffix ↔
        name.toList.head? ≠ some '.' ∧ s.templateSuffix.toList <:+ name.toList ∧
          ∃ raw, t.find? (directory.child name) = some (.file raw) := by
      intro name
      rw [mem_namesEnding]
      constructor
      · rintro ⟨hchild, hsuffix⟩
        obtain ⟨hhead, hfile⟩ := hheld.isFile name hchild hsuffix
        exact ⟨hhead, hsuffix, hfile⟩
      · rintro ⟨hhead, hsuffix, raw, hraw⟩
        have hname : name ≠ ".." := by
          rintro rfl
          exact hhead rfl
        exact ⟨mem_children hheld.isDirectory hname hraw, hsuffix⟩
    obtain ⟨added, hmakes⟩ := exists_makes fun name hname => ((hfound name).1 hname).2.2
    have hnodup := nodup_of_makes hending hheld hmakes
    have hload := loadTemplates_eq hending hheld.isDirectory hmakes
    refine ⟨_, added, pairwise_namesEnding t d s.templateSuffix, hfound, hmakes, hnodup, hload,
      { s.emptyEngine with
        templates := (Registry.insertAll [] added).insertAll s.templates }, ?_, ?_, ?_⟩
    · rw [buildEngine_eq, hload, s.templates_emptyEngine]
      rfl
    · intro name
      have hnone : Registry.get? ([] : Registry String) name = none := rfl
      rw [Registry.get?_insertAll hcanonical.templates, Registry.get?_insertAll hnodup, hnone,
        Option.or_none]
      rfl
    · have hnames : (Registry.insertAll [] added).names = added.map Prod.fst := by
        rw [Registry.names_insertAll hnodup]
        simp [Registry.names]
      rw [Registry.names_insertAll hcanonical.templates, hnames]
      rfl
  · have hload (e : Engine) : t.loadTemplates e directory s.templateSuffix
        = .fail (.noDirectory directory.text) := loadTemplates_of_no_directory hnone e
    refine ⟨hload, ?_⟩
    rw [buildEngine_eq, hload]
    rfl

end

/-- An ending with two points, a file beside the templates, and a template of the settings under the
    name of one of them. -/
theorem buildEngine_merges_clash :
    let site := Location.ofText "site"
    let gone := Location.ofText "gone"
    let t : FileTree :=
      { files := [
          (.ofText "site/a.page.html", "A"),
          (.ofText "site/b.page.html", "B\r\n"),
          (.ofText "site/c.html", "C")]
        directories := [site] }
    let es : Entries := [
      (.str "templates", .map [(.str "solo", .str "alone"), (.str "a.page", .str "own")]),
      (.str "template_suffix", .str "page.html")]
    ∃ s, Settings.read es = .ok s ∧
      (∀ c ∈ s.templateSuffix.toList, Glob.isSpecial c = false ∧ c ≠ '/') ∧
      t.HoldsTemplates site site s.templateSuffix ∧ (∀ d, t.find? gone ≠ some (.directory d)) ∧
      (∃ (added : Registry String) (e : Engine), added.names.Nodup ∧
        t.buildEngine { s with templateDirectory := some site }
          = ⟨[.templatesRegistered added.length "site"], .ok e⟩ ∧
        e.templates.get? "a.page" = some "own" ∧
        e.templates.get? "b.page" = added.get? "b.page") ∧
      t.buildEngine { s with templateDirectory := some gone } = .fail (.noDirectory "gone") := by
  intro site gone t es
  have hvalues : (Settings.read es).toOption.map (fun s => (s.templateSuffix, s.templates))
      = some (".page.html", [("solo", "alone"), ("a.page", "own")]) := by
    decide +kernel
  obtain ⟨s, hread, hsettings⟩ := Option.map_eq_some_iff.1 hvalues
  obtain ⟨hsuffix, htemplates⟩ := Prod.mk.inj hsettings
  rw [toOption_eq_some_iff] at hread
  have hall : ".page.html".toList.all (fun c => !Glob.isSpecial c && c != '/') = true := by
    decide +kernel
  have hliteral : ∀ c ∈ s.templateSuffix.toList, Glob.isSpecial c = false ∧ c ≠ '/' := by
    intro c hc
    rw [hsuffix] at hc
    simpa using List.all_eq_true.1 hall c hc
  have hchildren : t.children site = ["a.page.html", "b.page.html", "c.html"] := by
    show sortedDistinct ["a.page.html", "b.page.html", "c.html"] = _
    exact sortedDistinct_eq_self (by decide +kernel)
  have hheld : t.HoldsTemplates site site s.templateSuffix := by
    refine ⟨by decide +kernel, fun name hname _ => ?_⟩
    rw [hchildren] at hname
    simp only [List.mem_cons, List.not_mem_nil, or_false] at hname
    rcases hname with rfl | rfl | rfl
    · exact ⟨by decide +kernel, "A", by decide +kernel⟩
    · exact ⟨by decide +kernel, "B\r\n", by decide +kernel⟩
    · exact ⟨by decide +kernel, "C", by decide +kernel⟩
  have hnone : t.find? gone = none := by
    have hempty : t.children gone = [] := by
      show sortedDistinct [] = []
      exact sortedDistinct_eq_self .nil
    have hlookup : t.files.lookup gone = none := by decide +kernel
    have hdirectory : t.isDirectory gone = false := by
      rw [isDirectory, hempty]
      decide +kernel
    have hstep : Location.step ⟨"", []⟩ "gone" = gone := by decide +kernel
    show t.walk ⟨"", []⟩ ["gone"] = none
    rw [walk]
    simp only [hstep, hlookup, hdirectory]
    rfl
  have hmissing : ∀ d, t.find? gone ≠ some (.directory d) := fun d hd => by
    rw [hnone] at hd
    cases hd
  obtain ⟨-, added, -, -, -, hnodup, -, e, hbuilt, hget, -⟩ :=
    (buildEngine_merges hread hliteral t site).1 site hheld
  rw [htemplates] at hget
  exact ⟨s, hread, hliteral, hheld, hmissing, ⟨added, e, hnodup, hbuilt, hget _, hget _⟩,
    ((buildEngine_merges hread hliteral t gone).2 hmissing).2⟩

end FileTree

end Stencil
