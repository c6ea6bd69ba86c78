import Mathlib.Data.List.Nodup
import Stencil.Config.Settings
import Stencil.Proofs.Lookup
import Stencil.Proofs.Outcome

set_option autoImplicit false

/-! # Settings in normal form

Each field of the settings is taken for what its value means, or has complaints of its own
(`Settles`). So the complaints about a mapping come group by group, in the order of the fields
(`read_of_complaints`, `flatMap_filter_place`). What is read is in a form that reading gives back as
it is (`Meant.canonical`, `read_toEntries`), whichever values of other types are taken. -/

namespace Stencil

theorem Level.ofName?_eq_some_iff {name : String} {l : Level} :
    ofName? name = some l ↔ name = l.name := by
  rw [ofName?]
  constructor
  · intro h
    have hname := List.find?_some h
    rw [decide_eq_true_eq] at hname
    exact hname.symm
  · rintro rfl
    cases l <;> rfl

namespace Settings

/-! ## What a field means -/

section

variable {α : Type} {R : Value → α → Prop} {es : Entries} {name : String} {unset : α}

/-- What the value under a name means, or what holds if there is none. -/
def MeansField (es : Entries) (name : String) (R : Value → α → Prop) (unset a : α) : Prop :=
  match es.field? name with
  | some v => R v a
  | none => a = unset

/-- What holds of all that a field can mean, and of what it is where it is not set, holds of it. -/
theorem MeansField.imp {a : α} {p : α → Prop} (h : MeansField es name R unset a)
    (hmeant : ∀ v, R v a → p a) (hunset : p unset) : p a := by
  unfold MeansField at h
  split at h
  · exact hmeant _ h
  · rwa [h]

/-- Either nothing is wrong with a field and this is what it means, or there are complaints, all of
    them about this field. -/
def Settles (taken : Except Refused α) (name : String) (faulty : Prop) (means : α → Prop) : Prop :=
  match taken with
  | .ok a => ¬ faulty ∧ means a
  | .error r => faulty ∧ ∀ c ∈ r.complaints, c.place.head? = some name

theorem takeField_of_field? {take : Coercion α} {v : Value} (h : es.field? name = some v) :
    takeField es name unset take = (take v).mapError (.within name) := by
  rw [takeField, h]

theorem takeField_eq_ok {take : Coercion α} {v : Value} {a : α} (hfield : es.field? name = some v)
    (htake : take v = .ok a) : takeField es name unset take = .ok a := by
  rw [takeField_of_field? hfield, htake]
  rfl

theorem settles_takeField {take : Coercion α} (h : ∀ v a, take v = .ok a ↔ R v a) :
    Settles (takeField es name unset take) name
      (∃ v, es.field? name = some v ∧ ¬ ∃ a, R v a) (MeansField es name R unset) := by
  cases hv : es.field? name with
  | none =>
      have htaken : takeField es name unset take = .ok unset := by rw [takeField, hv]
      have hmeans : MeansField es name R unset unset := by rw [MeansField, hv]
      rw [htaken]
      exact ⟨nofun, hmeans⟩
  | some v =>
      have hmeans : MeansField es name R unset = R v := by
        funext a
        rw [MeansField, hv]
      have hfaulty : (∃ w, some v = some w ∧ ¬ ∃ a, R w a) ↔ ¬ ∃ a, R v a :=
        ⟨fun ⟨w, hw, hnone⟩ => Option.some.inj hw ▸ hnone, fun hnone => ⟨v, rfl, hnone⟩⟩
      rw [takeField_of_field? hv, hmeans, hfaulty]
      cases htaken : take v with
      | ok a => exact ⟨not_not_intro ⟨a, (h v a).1 htaken⟩, (h v a).1 htaken⟩
      | error r =>
          refine ⟨?_, fun c hc => ?_⟩
          · rintro ⟨a, ha⟩
            rw [(h v a).2 ha] at htaken
            cases htaken
          · rw [Refused.complaints_within] at hc
            obtain ⟨c, -, rfl⟩ := List.mem_map.1 hc
            rfl

theorem Settles.complaints {taken : Except Refused α} {faulty : Prop} {means : α → Prop}
    (h : Settles taken name faulty means) :
    (complaints taken = [] ↔ ¬ faulty) ∧ ∀ c ∈ complaints taken, c.place.head? = some name := by
  cases taken with
  | ok a => exact ⟨iff_of_true rfl h.1, nofun⟩
  | error r => exact ⟨iff_of_false (List.cons_ne_nil _ _) (not_not_intro h.1), h.2⟩

theorem Settles.exists_ok {taken : Except Refused α} {faulty : Prop} {means : α → Prop}
    (h : Settles taken name faulty means) (hnone : Stencil.complaints taken = []) :
    ∃ a, taken = .ok a ∧ means a := by
  cases taken with
  | ok a => exact ⟨a, rfl, h.2⟩
  | error r => exact absurd hnone (List.cons_ne_nil _ _)

end

/-! ## Groups of complaints -/

/-- Complaints that come group by group can be told apart by the places that they are about. -/
theorem flatMap_filter_place {groups : List (String × List Complaint)}
    (hnodup : (groups.map Prod.fst).Nodup)
    (hplace : ∀ g ∈ groups, ∀ c ∈ g.2, c.place.head? = some g.1) :
    (groups.map Prod.fst).flatMap (fun name =>
      (groups.flatMap Prod.snd).filter fun c => c.place.head? == some name) =
        groups.flatMap Prod.snd := by
  induction groups with
  | nil => rfl
  | cons g groups ih =>
      obtain ⟨hg, hgroups⟩ := List.forall_mem_cons.1 hplace
      obtain ⟨hnew, hnodup⟩ := List.nodup_cons.1 hnodup
      -- The first name keeps all complaints of its group and none of a later one.
      have hown : (g.2.filter fun c => c.place.head? == some g.1) = g.2 :=
        List.filter_eq_self.2 fun c hc => beq_iff_eq.2 (hg c hc)
      have hothers :
          ((groups.flatMap Prod.snd).filter fun c => c.place.head? == some g.1) = [] := by
        rw [List.filter_eq_nil_iff]
        intro c hc heq
        obtain ⟨g', hg', hc⟩ := List.mem_flatMap.1 hc
        have hname := (hgroups g' hg' c hc).symm.trans (beq_iff_eq.1 heq)
        exact hnew (Option.some.inj hname ▸ List.mem_map_of_mem hg')
      -- A later name keeps none of the first group.
      have hlater : (groups.map Prod.fst).flatMap (fun name =>
          (g.2 ++ groups.flatMap Prod.snd).filter fun c => c.place.head? == some name) =
            groups.flatMap Prod.snd := by
        rw [← ih hnodup hgroups]
        refine List.flatMap_congr fun name hname => ?_
        have hnone : (g.2.filter fun c => c.place.head? == some name) = [] := by
          rw [List.filter_eq_nil_iff]
          intro c hc heq
          have hsame := (hg c hc).symm.trans (beq_iff_eq.1 heq)
          exact hnew (Option.some.inj hsame ▸ hname)
        rw [List.filter_append, hnone, List.nil_append, ih hnodup hgroups]
      rw [List.map_cons, List.flatMap_cons, List.flatMap_cons, hlater, List.filter_append, hown,
        hothers, List.append_nil]

/-! ## Dumped settings -/

/-- Settings in the form that reading gives them. -/
structure Canonical (s : Settings) : Prop where
  templates : (s.templates.map Prod.fst).Nodup
  templateDirectory : ∀ l ∈ s.templateDirectory, l.Plain
  templateSuffix : s.templateSuffix.toList.head? = some '.'
  options : ∃ fields : Fields Value, s.options = .ofFields fields.entries

theorem head?_pointed (s : String) : (pointed s).toList.head? = some '.' := by
  rw [pointed]
  split
  · assumption
  · rw [String.toList_append]
    rfl

theorem pointed_of_head? {s : String} (h : s.toList.head? = some '.') : pointed s = s := by
  rw [pointed, if_pos h]

/-- The fields of dumped settings. -/
theorem field?_toEntries (s : Settings) :
    s.toEntries.field? "templates" =
      some (.map (Entries.ofFields (s.templates.map fun t => (t.1, .str t.2)))) ∧
    s.toEntries.field? "template_dir" =
      some (s.templateDirectory.elim .null fun l => .str l.text) ∧
    s.toEntries.field? "template_suffix" = some (.str s.templateSuffix) ∧
    s.toEntries.field? "site_components" = some (.bool s.siteComponents) ∧
    s.toEntries.field? "cache_size" = some (.int s.cacheSize) ∧
    s.toEntries.field? "log_level" = some (.str s.logLevel.name) ∧
    s.toEntries.field? "options" = some (.map s.options) := by
  obtain ⟨templates, directory, suffix, site, size, level, options⟩ := s
  simp only [toEntries, Entries.ofFields, List.map_cons]
  cases directory <;> refine ⟨?_, ?_, ?_, ?_, ?_, ?_, ?_⟩ <;>
    simp only [Entries.field?_cons_self, Entries.field?_cons_of_ne, ne_eq, Value.str.injEq,
      String.reduceEq, not_false_eq_true, Option.elim]

/-- A dumped mapping in the form that every field has after reading. -/
structure Normal (es : Entries) : Prop where
  cacheSize : ∃ n : Int, es.field? "cache_size" = some (.int n) ∧ 0 ≤ n
  logLevel : ∃ level ∈ ["DEBUG", "INFO", "WARNING", "ERROR", "CRITICAL"],
    es.field? "log_level" = some (.str level)
  templateSuffix : ∃ suffix, es.field? "template_suffix" = some (.str suffix) ∧
    suffix.toList.head? = some '.'
  templates : ∃ templates : List (String × String), es.field? "templates" =
    some (.map (Entries.ofFields (templates.map fun t => (t.1, .str t.2))))

theorem Canonical.normal {s : Settings} (h : s.Canonical) : Normal s.toEntries := by
  obtain ⟨ht, -, hs, -, hn, hl, -⟩ := field?_toEntries s
  refine ⟨⟨s.cacheSize, hn, Int.natCast_nonneg _⟩, ⟨s.logLevel.name, ?_, hl⟩,
    ⟨s.templateSuffix, hs, h.templateSuffix⟩, ⟨s.templates, ht⟩⟩
  cases s.logLevel <;> decide

section

variable [Coercions]

/-! ## What a value means -/

/-- Texts under their names. -/
def MeansTemplates (v : Value) (templates : List (String × String)) : Prop :=
  ∃ fields, Coercions.texts v = .ok fields ∧ templates = fields.entries

/-- The place that a path leads to, or none. -/
def MeansLocation (v : Value) (l : Option Location) : Prop :=
  ∃ path, Coercions.path v = .ok path ∧ l = path.map .ofText

/-- A suffix, with or without its point. -/
def MeansSuffix (v : Value) (suffix : String) : Prop :=
  ∃ s, Coercions.text v = .ok s ∧ suffix = pointed s

/-- A truth value. -/
def MeansTruth (v : Value) (b : Bool) : Prop :=
  Coercions.truth v = .ok b

/-- An integer that is not negative. -/
def MeansCount (v : Value) (n : Nat) : Prop :=
  Coercions.integer v = .ok n

/-- The name of a level in any case. -/
def MeansLevel (v : Value) (l : Level) : Prop :=
  ∃ s, Coercions.text v = .ok s ∧ String.ofList (Text.toUpper s.toList) = l.name

/-- Values under their names. -/
def MeansOptions (v : Value) (options : Entries) : Prop :=
  ∃ fields, Coercions.values v = .ok fields ∧ options = .ofFields fields.entries

section

variable {v : Value}

theorem takeTemplates_eq_ok_iff {templates : List (String × String)} :
    takeTemplates v = .ok templates ↔ MeansTemplates v templates :=
  bind_pure_eq_ok

theorem takeLocation_eq_ok_iff {l : Option Location} :
    takeLocation v = .ok l ↔ MeansLocation v l :=
  bind_pure_eq_ok

theorem takeSuffix_eq_ok_iff {suffix : String} : takeSuffix v = .ok suffix ↔ MeansSuffix v suffix :=
  bind_pure_eq_ok

theorem takeCount_eq_ok_iff {n : Nat} : takeCount v = .ok n ↔ MeansCount v n := by
  rw [takeCount, bind_eq_ok, MeansCount]
  constructor
  · rintro ⟨i, hi, h⟩
    cases i with
    | ofNat i =>
        cases h
        exact hi
    | negSucc i => cases h
  · intro h
    exact ⟨n, h, rfl⟩

theorem takeLevel_eq_ok_iff {l : Level} : takeLevel v = .ok l ↔ MeansLevel v l := by
  rw [takeLevel, bind_eq_ok, MeansLevel]
  refine exists_congr fun s => and_congr_right' ?_
  rw [← Level.ofName?_eq_some_iff]
  cases Level.ofName? (String.ofList (Text.toUpper s.toList)) with
  | none => exact iff_of_false nofun nofun
  | some l' =>
      refine ⟨fun h => ?_, fun h => ?_⟩
      · cases h
        rfl
      · cases h
        rfl

theorem takeOptions_eq_ok_iff {options : Entries} :
    takeOptions v = .ok options ↔ MeansOptions v options :=
  bind_pure_eq_ok

end

/-! ## What all fields mean -/

/-- Whether the value of a field means anything. -/
def HasMeaning (name : String) (v : Value) : Prop :=
  match name with
  | "templates" => ∃ templates, MeansTemplates v templates
  | "template_dir" => ∃ l, MeansLocation v l
  | "template_suffix" => ∃ s, MeansSuffix v s
  | "site_components" => ∃ b, MeansTruth v b
  | "cache_size" => ∃ n, MeansCount v n
  | "log_level" => ∃ l, MeansLevel v l
  | "options" => ∃ options, MeansOptions v options
  | _ => True

/-- A field that is set to a value that means nothing there. -/
def Faulty (es : Entries) (name : String) : Prop :=
  ∃ v, es.field? name = some v ∧ ¬ HasMeaning name v

/-- Settings that are what a mapping means, field by field. -/
structure Meant (es : Entries) (s : Settings) : Prop where
  templates : MeansField es "templates" MeansTemplates usual.templates s.templates
  templateDirectory :
    MeansField es "template_dir" MeansLocation usual.templateDirectory s.templateDirectory
  templateSuffix : MeansField es "template_suffix" MeansSuffix usual.templateSuffix s.templateSuffix
  siteComponents : MeansField es "site_components" MeansTruth usual.siteComponents s.siteComponents
  cacheSize : MeansField es "cache_size" MeansCount usual.cacheSize s.cacheSize
  logLevel : MeansField es "log_level" MeansLevel usual.logLevel s.logLevel
  options : MeansField es "options" MeansOptions usual.options s.options

/-- The complaints about each field. -/
def complaintsOf (es : Entries) : List (String × List Complaint) :=
  [("templates", complaints (takeField es "templates" usual.templates takeTemplates)),
    ("template_dir", complaints (takeField es "template_dir" usual.templateDirectory takeLocation)),
    ("template_suffix",
      complaints (takeField es "template_suffix" usual.templateSuffix takeSuffix)),
    ("site_components",
      complaints (takeField es "site_components" usual.siteComponents Coercions.truth)),
    ("cache_size", complaints (takeField es "cache_size" usual.cacheSize takeCount)),
    ("log_level", complaints (takeField es "log_level" usual.logLevel takeLevel)),
    ("options", complaints (takeField es "options" usual.options takeOptions))]

section

variable (es : Entries)

theorem settles_templates :
    Settles (takeField es "templates" usual.templates takeTemplates) "templates"
      (Faulty es "templates") (MeansField es "templates" MeansTemplates usual.templates) :=
  settles_takeField fun _ _ => takeTemplates_eq_ok_iff

theorem settles_templateDirectory :
    Settles (takeField es "template_dir" usual.templateDirectory takeLocation) "template_dir"
      (Faulty es "template_dir")
      (MeansField es "template_dir" MeansLocation usual.templateDirectory) :=
  settles_takeField fun _ _ => takeLocation_eq_ok_iff

theorem settles_templateSuffix :
    Settles (takeField es "template_suffix" usual.templateSuffix takeSuffix) "template_suffix"
      (Faulty es "template_suffix")
      (MeansField es "template_suffix" MeansSuffix usual.templateSuffix) :=
  settles_takeField fun _ _ => takeSuffix_eq_ok_iff

theorem settles_siteComponents :
    Settles (takeField es "site_components" usual.siteComponents Coercions.truth) "site_components"
      (Faulty es "site_components")
      (MeansField es "site_components" MeansTruth usual.siteComponents) :=
  settles_takeField fun _ _ => Iff.rfl

theorem settles_cacheSize :
    Settles (takeField es "cache_size" usual.cacheSize takeCount) "cache_size"
      (Faulty es "cache_size") (MeansField es "cache_size" MeansCount usual.cacheSize) :=
  settles_takeField fun _ _ => takeCount_eq_ok_iff

theorem settles_logLevel :
    Settles (takeField es "log_level" usual.logLevel takeLevel) "log_level"
      (Faulty es "log_level") (MeansField es "log_level" MeansLevel usual.logLevel) :=
  settles_takeField fun _ _ => takeLevel_eq_ok_iff

theorem settles_options :
    Settles (takeField es "options" usual.options takeOptions) "options"
      (Faulty es "options") (MeansField es "options" MeansOptions usual.options) :=
  settles_takeField fun _ _ => takeOptions_eq_ok_iff

end

theorem complaintsOf_spec (es : Entries) : ∀ g ∈ complaintsOf es,
    (g.2 = [] ↔ ¬ Faulty es g.1) ∧ ∀ c ∈ g.2, c.place.head? = some g.1 := by
  simp only [complaintsOf, List.forall_mem_cons, List.not_mem_nil, false_imp_iff, implies_true,
    and_true]
  exact ⟨(settles_templates es).complaints, (settles_templateDirectory es).complaints,
    (settles_templateSuffix es).complaints, (settles_siteComponents es).complaints,
    (settles_cacheSize es).complaints, (settles_logLevel es).complaints,
    (settles_options es).complaints⟩

theorem fst_complaintsOf (es : Entries) : (complaintsOf es).map Prod.fst = fieldNames := rfl

/-- Other fields are passed over. -/
theorem mem_fieldNames_of_faulty {es : Entries} {name : String} (h : Faulty es name) :
    name ∈ fieldNames := by
  obtain ⟨v, -, hmeaning⟩ := h
  unfold HasMeaning at hmeaning
  split at hmeaning
  case h_8 => exact absurd trivial hmeaning
  all_goals decide

theorem faulty_iff (es : Entries) (name : String) : Faulty es name ↔
    ∃ c ∈ (complaintsOf es).flatMap Prod.snd, c.place.head? = some name := by
  constructor
  · intro h
    obtain ⟨g, hg, rfl⟩ := List.mem_map.1 (fst_complaintsOf es ▸ mem_fieldNames_of_faulty h)
    obtain ⟨hnone, hplace⟩ := complaintsOf_spec es g hg
    obtain ⟨c, cs, hcs⟩ := List.exists_cons_of_ne_nil fun hnil => hnone.1 hnil h
    have hc : c ∈ g.2 := hcs ▸ List.mem_cons_self
    exact ⟨c, List.mem_flatMap.2 ⟨g, hg, hc⟩, hplace c hc⟩
  · rintro ⟨c, hc, hname⟩
    obtain ⟨g, hg, hc⟩ := List.mem_flatMap.1 hc
    obtain ⟨hnone, hplace⟩ := complaintsOf_spec es g hg
    obtain rfl := Option.some.inj ((hplace c hc).symm.trans hname)
    by_contra hfaulty
    rw [hnone.2 hfaulty] at hc
    cases hc

/-- Where no field has a complaint, each is taken for what it means. -/
theorem read_of_no_complaints {es : Entries} (h : ∀ g ∈ complaintsOf es, g.2 = []) :
    ∃ s, read es = .ok s ∧ Meant es s := by
  simp only [complaintsOf, List.forall_mem_cons] at h
  obtain ⟨ht, hd, hs, hb, hn, hl, ho, -⟩ := h
  obtain ⟨templates, ht, htemplates⟩ := (settles_templates es).exists_ok ht
  obtain ⟨directory, hd, hdirectory⟩ := (settles_templateDirectory es).exists_ok hd
  obtain ⟨suffix, hs, hsuffix⟩ := (settles_templateSuffix es).exists_ok hs
  obtain ⟨site, hb, hsite⟩ := (settles_siteComponents es).exists_ok hb
  obtain ⟨size, hn, hsize⟩ := (settles_cacheSize es).exists_ok hn
  obtain ⟨level, hl, hlevel⟩ := (settles_logLevel es).exists_ok hl
  obtain ⟨options, ho, hoptions⟩ := (settles_options es).exists_ok ho
  refine ⟨⟨templates, directory, suffix, site, size, level, options⟩, ?_, ?_⟩
  · simp only [read, ht, hd, hs, hb, hn, hl, ho]
  · exact ⟨htemplates, hdirectory, hsuffix, hsite, hsize, hlevel, hoptions⟩

/-- Where some field has a complaint, all complaints are given, in the order of the fields. -/
theorem read_of_complaints {es : Entries} (h : (complaintsOf es).flatMap Prod.snd ≠ []) :
    read es = .error ((complaintsOf es).flatMap Prod.snd) := by
  simp only [complaintsOf, List.flatMap_cons, List.flatMap_nil, List.append_nil] at h ⊢
  simp only [read]
  split
  · rename_i ht hd hs hb hn hl ho
    rw [ht, hd, hs, hb, hn, hl, ho] at h
    exact absurd rfl h
  · simp only [List.append_assoc]

theorem no_complaints_of_read {es : Entries} {s : Settings} (h : read es = .ok s) :
    ∀ g ∈ complaintsOf es, g.2 = [] := by
  rw [← List.flatMap_eq_nil_iff]
  by_contra hne
  rw [read_of_complaints hne] at h
  cases h

/-- What is read is what the fields mean. -/
theorem meant_of_read {es : Entries} {s : Settings} (h : read es = .ok s) : Meant es s := by
  obtain ⟨s', hread, hmeant⟩ := read_of_no_complaints (no_complaints_of_read h)
  rw [h] at hread
  cases hread
  exact hmeant

/-! ## Settings that are read again -/

theorem Meant.canonical {es : Entries} {s : Settings} (h : Meant es s) : s.Canonical where
  templates := by
    refine h.templates.imp (p := fun ts => (ts.map Prod.fst).Nodup) ?_ List.nodup_nil
    rintro v ⟨fields, -, htemplates⟩
    rw [htemplates]
    exact fields.nodup
  templateDirectory := by
    refine h.templateDirectory.imp (p := fun d => ∀ l ∈ d, l.Plain) ?_ nofun
    rintro v ⟨path, -, hpath⟩ l hl
    rw [hpath] at hl
    obtain ⟨text, -, rfl⟩ := Option.map_eq_some_iff.1 hl
    exact Location.plain_ofText text
  templateSuffix := by
    refine h.templateSuffix.imp (p := fun s => s.toList.head? = some '.') ?_ rfl
    rintro v ⟨text, -, hpointed⟩
    rw [hpointed]
    exact head?_pointed text
  options := by
    refine h.options.imp (p := fun es => ∃ fields : Fields Value, es = .ofFields fields.entries) ?_
      ⟨⟨[], .nil⟩, rfl⟩
    rintro v ⟨fields, -, hoptions⟩
    exact ⟨fields, hoptions⟩

theorem read_toEntries (hlawful : Coercions.Lawful) {s : Settings} (h : s.Canonical) :
    read s.toEntries = .ok s := by
  obtain ⟨htemplates, hdirectory, hsuffix, fields, hoptions⟩ := h
  obtain ⟨ht, hd, hs, hb, hn, hl, ho⟩ := field?_toEntries s
  have htexts : takeField s.toEntries "templates" usual.templates takeTemplates =
      .ok s.templates :=
    takeField_eq_ok ht (takeTemplates_eq_ok_iff.2
      ⟨⟨s.templates, htemplates⟩, hlawful.texts ⟨s.templates, htemplates⟩, rfl⟩)
  have hplace : takeField s.toEntries "template_dir" usual.templateDirectory takeLocation =
      .ok s.templateDirectory := by
    refine takeField_eq_ok hd (takeLocation_eq_ok_iff.2 ?_)
    cases hl : s.templateDirectory with
    | none => exact ⟨none, hlawful.nowhere, rfl⟩
    | some l =>
        refine ⟨some l.text, hlawful.path l.text, ?_⟩
        rw [Option.map_some, Location.ofText_text (hdirectory l hl)]
  have hpointed : takeField s.toEntries "template_suffix" usual.templateSuffix takeSuffix =
      .ok s.templateSuffix :=
    takeField_eq_ok hs (takeSuffix_eq_ok_iff.2
      ⟨s.templateSuffix, hlawful.text s.templateSuffix, (pointed_of_head? hsuffix).symm⟩)
  have hsite : takeField s.toEntries "site_components" usual.siteComponents Coercions.truth =
      .ok s.siteComponents :=
    takeField_eq_ok hb (hlawful.truth s.siteComponents)
  have hsize : takeField s.toEntries "cache_size" usual.cacheSize takeCount = .ok s.cacheSize :=
    takeField_eq_ok hn (takeCount_eq_ok_iff.2 (hlawful.integer s.cacheSize))
  have hlevel : takeField s.toEntries "log_level" usual.logLevel takeLevel = .ok s.logLevel := by
    refine takeField_eq_ok hl (takeLevel_eq_ok_iff.2 ⟨_, hlawful.text s.logLevel.name, ?_⟩)
    cases s.logLevel <;> rfl
  have hvalues : takeField s.toEntries "options" usual.options takeOptions = .ok s.options := by
    refine takeField_eq_ok ho (takeOptions_eq_ok_iff.2 ⟨fields, ?_, hoptions⟩)
    rw [hoptions]
    exact hlawful.values fields
  simp only [read, htexts, hplace, hpointed, hsite, hsize, hlevel, hvalues]

/-- **Reading settings settles them.** What is read from a mapping is what each of its fields means,
    and its dump is in normal form and is read as the same settings again. If some field is faulty,
    the mapping is refused; then each faulty field has complaints and no other field has, and the
    complaints come in the order of the fields. -/
theorem read_settles (hlawful : Coercions.Lawful) (es : Entries) :
    match read es with
    | .ok s =>
      (∀ name, ¬ Faulty es name) ∧ Meant es s ∧ Normal s.toEntries ∧ read s.toEntries = .ok s
    | .error cs =>
      cs ≠ [] ∧ (∀ name, Faulty es name ↔ ∃ c ∈ cs, c.place.head? = some name) ∧
        cs = fieldNames.flatMap fun name => cs.filter fun c => c.place.head? == some name := by
  by_cases hnone : (complaintsOf es).flatMap Prod.snd = []
  · obtain ⟨s, hread, hmeant⟩ := read_of_no_complaints (List.flatMap_eq_nil_iff.1 hnone)
    have hcanonical := hmeant.canonical
    rw [hread]
    refine ⟨fun name hfaulty => ?_, hmeant, hcanonical.normal, read_toEntries hlawful hcanonical⟩
    obtain ⟨c, hc, -⟩ := (faulty_iff es name).1 hfaulty
    rw [hnone] at hc
    cases hc
  · rw [read_of_complaints hnone]
    have hnodup : ((complaintsOf es).map Prod.fst).Nodup := by
      rw [fst_complaintsOf]
      decide
    refine ⟨hnone, faulty_iff es, ?_⟩
    exact (flatMap_filter_place hnodup fun g hg => (complaintsOf_spec es g hg).2).symm

end

/-- Settings with a value of another type in each of four fields, and settings with two faulty
    fields between others. -/
theorem read_settles_lax :
    let written : Entries := [
      (.str "log_level", .str "debug"),
      (.str "cache_size", .str " 1_000.0 "),
      (.str "template_suffix", .str "page.html"),
      (.str "site_components", .int 0)]
    let wrong : Entries := [
      (.str "log_level", .str "loud"),
      (.str "site_components", .str "Yes"),
      (.str "cache_size", .int (-1))]
    Coercions.Lawful ∧
      (∃ s, read written = .ok s ∧ s.cacheSize = 1000 ∧ s.logLevel = .debug ∧
        s.templateSuffix = ".page.html" ∧ s.siteComponents = false ∧ Normal s.toEntries ∧
        read s.toEntries = .ok s) ∧
      ∃ cs, read wrong = .error cs ∧
        cs.map (fun c => c.place.head?) = [some "cache_size", some "log_level"] ∧
        ∀ name, Faulty wrong name ↔ ∃ c ∈ cs, c.place.head? = some name := by
  intro written wrong
  refine ⟨Lax.lawful, ?_, ?_⟩
  · have hvalues : (read written).toOption.map (fun s =>
        (s.cacheSize, s.logLevel, s.templateSuffix, s.siteComponents))
        = some (1000, .debug, ".page.html", false) := by
      decide +kernel
    obtain ⟨s, hread, hs⟩ := Option.map_eq_some_iff.1 hvalues
    rw [toOption_eq_some_iff] at hread
    have hsettles := read_settles Lax.lawful written
    rw [hread] at hsettles
    obtain ⟨-, -, hnormal, hagain⟩ := hsettles
    simp only [Prod.mk.injEq] at hs
    obtain ⟨hsize, hlevel, hsuffix, hsite⟩ := hs
    exact ⟨s, hread, hsize, hlevel, hsuffix, hsite, hnormal, hagain⟩
  · have hplaces : (match read wrong with
        | .ok _ => []
        | .error cs => cs.map fun c => c.place.head?) = [some "cache_size", some "log_level"] := by
      decide +kernel
    have hsettles := read_settles Lax.lawful wrong
    cases hread : read wrong with
    | ok s =>
        rw [hread] at hplaces
        cases hplaces
    | error cs =>
        rw [hread] at hplaces hsettles
        exact ⟨cs, rfl, hplaces, hsettles.2.1⟩

end Settings

end Stencil
