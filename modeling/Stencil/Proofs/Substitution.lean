import Mathlib.Data.List.Forall2
import Stencil.Proofs.Outcome
import Stencil.Proofs.References

set_option autoImplicit false

/-! # What substitution does to a value

Substitution replaces the references in the texts of a value. What comes of a value, if anything
does, is said by `Value.mapTexts` and `filledText`, which are the same in both modes: the modes differ
in the references that they refuse (`Reference.Refused`), and in nothing else
(`substitute_eq_ok_iff`).

* `substitute_succeeds_iff` says when substitution fails in either mode.
* `substitute_local` says what is replaced by what, and that everything else stays. -/

namespace Stencil

/-! ## What stands for a reference -/

namespace Reference

/-- The variable of the reference is set. -/
def IsSet (env : Environment) (r : Reference) : Prop :=
  (env.lookup (String.ofList r.name)).isSome = true

/-- The reference asks for its variable: it has a modifier that starts with `:?`, or one that does
    not start with a colon. -/
def Demands (r : Reference) : Prop :=
  ∃ m ∈ r.modifier, [':', '?'] <+: m ∨ ¬ [':'] <+: m

/-- Nothing may stand for the reference. -/
def Refused (env : Environment) (strict : Bool) (r : Reference) : Prop :=
  ¬ r.IsSet env ∧ (strict = true ∨ r.Demands)

/-- The default that the reference gives, if it gives one. -/
def default? (r : Reference) : Option (List Char) :=
  match r.modifier.map Modifier.read with
  | some (.default d) => some d
  | _ => none

/-- The value of the variable, or else the default, or else the reference itself. -/
def replacement (env : Environment) (r : Reference) : List Char :=
  match env.lookup (String.ofList r.name) with
  | some v => v.toList
  | none => r.default?.getD r.source

theorem read_cases (m : List Char) :
    ((∃ d, Modifier.read m = .default d) ∧ [':'] <+: m ∧ ¬ [':', '?'] <+: m) ∨
    ((∃ d, Modifier.read m = .required d) ∧ [':', '?'] <+: m) ∨
    (Modifier.read m = .invalid ∧ ¬ [':'] <+: m) := by
  unfold Modifier.read
  split
  · exact Or.inr (Or.inl ⟨⟨_, rfl⟩, by simp⟩)
  · exact Or.inl ⟨⟨_, rfl⟩, by simp, by simp⟩
  · rename_i d hrequired hdefault
    refine Or.inl ⟨⟨_, rfl⟩, by simp, ?_⟩
    rintro ⟨rest, hrest⟩
    cases hrest
    exact hrequired rest rfl
  · rename_i hrequired hdefault hcolon
    refine Or.inr (Or.inr ⟨rfl, ?_⟩)
    rintro ⟨rest, rfl⟩
    exact hcolon rest rfl

/-- What stands for a reference does not depend on the mode, but whether anything may does. -/
theorem resolve_eq_ok_iff {env : Environment} {strict : Bool} {r : Reference} {cs : List Char} :
    r.resolve env strict = .ok cs ↔ ¬ r.Refused env strict ∧ cs = r.replacement env := by
  unfold resolve replacement Refused IsSet
  dsimp only
  cases env.lookup (String.ofList r.name) with
  | some v => simp [eq_comm]
  | none =>
      unfold default? Demands
      rcases r with ⟨name, _ | m⟩
      · cases strict <;> simp [eq_comm]
      · rcases read_cases m with ⟨⟨d, hread⟩, hcolon, hrequired⟩ | ⟨⟨d, hread⟩, hrequired⟩ |
          ⟨hread, hcolon⟩
        · cases strict <;> simp [hread, hcolon, hrequired, eq_comm]
        · simp [hread, hrequired]
        · simp [hread, hcolon]

end Reference

/-! ## What becomes of a text -/

/-- What stands for a fragment of a text. -/
def Fragment.replacement (env : Environment) : Fragment → List Char
  | .text cs => cs
  | .reference r => r.replacement env

/-- What becomes of a text when another one takes its place. -/
def replacedText (s : String) (replaced : List Char) : Value :=
  match Fragment.scan s.toList with
  | [.reference _] => if replaced = s.toList then .str s else Scalar.ofText replaced
  | _ => .str (String.ofList replaced)

/-- What becomes of a text when its references are replaced. -/
def filledText (env : Environment) (s : String) : Value :=
  replacedText s ((Fragment.scan s.toList).flatMap (Fragment.replacement env))

theorem substituteText_eq (env : Environment) (strict : Bool) (s : String) :
    substituteText env strict s = do
      let parts ← (Fragment.scan s.toList).mapM (Fragment.resolve env strict)
      return replacedText s parts.flatten := by
  unfold substituteText replacedText
  dsimp only
  refine congrArg _ (funext fun parts => ?_)
  rcases Fragment.scan s.toList with _ | ⟨_ | r, _ | ⟨f, fs⟩⟩ <;> rfl

theorem Fragment.resolve_eq_ok_iff {env : Environment} {strict : Bool} {f : Fragment}
    {cs : List Char} : f.resolve env strict = .ok cs ↔
      (∀ r, f = .reference r → ¬ r.Refused env strict) ∧ cs = f.replacement env := by
  cases f with
  | text ds => simp [resolve, replacement, eq_comm]
  | reference r => simp [resolve, replacement, Reference.resolve_eq_ok_iff]

theorem substituteText_eq_ok_iff {env : Environment} {strict : Bool} {s : String} {w : Value} :
    substituteText env strict s = .ok w ↔
      (∀ r, .reference r ∈ Fragment.scan s.toList → ¬ r.Refused env strict) ∧
        w = filledText env s := by
  have hparts (parts : List (List Char)) :
      (Fragment.scan s.toList).mapM (Fragment.resolve env strict) = .ok parts ↔
        (∀ f ∈ Fragment.scan s.toList, ∀ r, f = .reference r → ¬ r.Refused env strict) ∧
          parts = (Fragment.scan s.toList).map (Fragment.replacement env) :=
    mapM_eq_ok_iff_map fun _ _ _ => Fragment.resolve_eq_ok_iff
  rw [substituteText_eq, bind_eq_ok, filledText, List.flatMap_def]
  constructor
  · rintro ⟨parts, h, hw⟩
    obtain ⟨hrefused, rfl⟩ := (hparts parts).1 h
    cases hw
    exact ⟨fun r hr => hrefused _ hr r rfl, rfl⟩
  · rintro ⟨hrefused, rfl⟩
    exact ⟨_, (hparts _).2 ⟨fun f hf r hr => hrefused r (hr ▸ hf), rfl⟩, rfl⟩

/-- What may become of a text. Only a text that is one whole reference is read for what it denotes,
    and only if something else stands for the reference. -/
inductive Filled (env : Environment) (s : String) : Value → Prop
  | mixed {fs : List Fragment} : Fragment.Leftmost s.toList fs →
      (∀ r : Reference, r.WellFormed → s.toList ≠ r.source) →
      Filled env s (.str (String.ofList (fs.flatMap (Fragment.replacement env))))
  | kept {r : Reference} : r.WellFormed → s.toList = r.source → r.replacement env = r.source →
      Filled env s (.str s)
  | whole {r : Reference} : r.WellFormed → s.toList = r.source → r.replacement env ≠ r.source →
      Filled env s (Scalar.ofText (r.replacement env))

theorem filled_filledText (env : Environment) (s : String) : Filled env s (filledText env s) := by
  have hscan := Fragment.leftmost_scan s.toList
  unfold filledText replacedText
  split
  · rename_i r hr
    rw [hr] at hscan ⊢
    obtain ⟨hwf, hs⟩ := Fragment.leftmost_reference_iff.1 hscan
    rw [List.flatMap_singleton, Fragment.replacement, hs]
    split
    · rename_i hkept
      exact .kept hwf hs hkept
    · rename_i hne
      exact .whole hwf hs hne
  · rename_i hmixed
    refine .mixed hscan fun r hr hs => ?_
    exact hmixed r (Fragment.leftmost_iff.1 (Fragment.leftmost_reference_iff.2 ⟨hr, hs⟩))

/-- Truth values and numbers. -/
def Value.IsScalar (v : Value) : Prop :=
  (∃ b, v = .bool b) ∨ (∃ n, v = .int n) ∨ ∃ x, v = .float x

theorem Scalar.ofText_cases (cs : List Char) :
    (ofText cs).IsScalar ∨ ofText cs = .str (String.ofList cs) := by
  unfold ofText
  dsimp only
  split
  · exact Or.inl (Or.inl ⟨_, rfl⟩)
  split
  · exact Or.inl (Or.inl ⟨_, rfl⟩)
  split
  · exact Or.inl (Or.inr (Or.inl ⟨_, rfl⟩))
  · exact Or.inl (Or.inr (Or.inr ⟨_, rfl⟩))
  · exact Or.inr rfl

theorem Filled.cases_scalar {env : Environment} {s : String} {w : Value} (h : Filled env s w) :
    (∃ t, w = .str t) ∨ (w.IsScalar ∧
      ∃ r : Reference, r.WellFormed ∧ s.toList = r.source ∧ r.replacement env ≠ r.source) := by
  cases h with
  | mixed _ _ => exact Or.inl ⟨_, rfl⟩
  | kept _ _ _ => exact Or.inl ⟨_, rfl⟩
  | whole hwf hs hne =>
      rcases Scalar.ofText_cases (Reference.replacement env _) with hscalar | htext
      · exact Or.inr ⟨hscalar, _, hwf, hs, hne⟩
      · exact Or.inl ⟨_, htext⟩

/-! ## Texts in a value -/

namespace Value

/-- Whether substitution looks into a value. -/
def isWalked : Value → Bool
  | .str _ => true
  | .list _ => true
  | .map _ => true
  | _ => false

theorem sizeOf_snd_lt {es : List (Value × Value)} {e : Value × Value} (h : e ∈ es) :
    sizeOf e.2 < sizeOf es := by
  have hlt : sizeOf e < sizeOf es := List.sizeOf_lt_of_mem h
  obtain ⟨k, v⟩ := e
  rw [Prod.mk.sizeOf_spec] at hlt
  dsimp only
  omega

/-- What holds of texts and of values that substitution does not look into, and of lists and
    mappings if it holds of all that is in them, holds of all values. -/
@[elab_as_elim]
theorem walk_induction {p : Value → Prop} (text : ∀ s, p (.str s))
    (list : ∀ xs, (∀ x ∈ xs, p x) → p (.list xs))
    (map : ∀ es : List (Value × Value), (∀ e ∈ es, p e.2) → p (.map es))
    (other : ∀ v, v.isWalked = false → p v) (v : Value) : p v :=
  match v with
  | .str s => text s
  | .list xs => list xs fun x hx =>
      have := List.sizeOf_lt_of_mem hx
      walk_induction text list map other x
  | .map es => map es fun e he =>
      have := sizeOf_snd_lt he
      walk_induction text list map other e.2
  | .null | .bool _ | .int _ | .float _ | .bytes _ | .date _ | .moment _ | .zone _ | .tuple _
  | .record _ | .function _ _ | .undefined => other _ rfl
termination_by sizeOf v

/-- The value with something in the place of each of its texts. -/
def mapTexts (g : String → Value) : Value → Value
  | .str s => g s
  | .list xs => .list (xs.map (mapTexts g))
  | .map es => .map (es.map fun e => (e.1, mapTexts g e.2))
  | v => v
termination_by v => sizeOf v
decreasing_by
  · decreasing_tactic
  · have := sizeOf_snd_lt ‹_ ∈ es›
    decreasing_tactic

/-- The values are alike but for the texts, in whose places there are values related to them. -/
inductive Replaced (R : String → Value → Prop) : Value → Value → Prop
  | text {s : String} {w : Value} : R s w → Replaced R (.str s) w
  | list {xs ys : List Value} : List.Forall₂ (Replaced R) xs ys → Replaced R (.list xs) (.list ys)
  | map {es fs : List (Value × Value)} : es.map Prod.fst = fs.map Prod.fst →
      List.Forall₂ (Replaced R) (es.map Prod.snd) (fs.map Prod.snd) →
      Replaced R (.map es) (.map fs)
  | other {v : Value} : v.isWalked = false → Replaced R v v

/-- The text stands in the value, among the items of lists or the values of mappings at any
    depth. -/
inductive HasText : Value → String → Prop
  | self (s : String) : HasText (.str s) s
  | item {xs : List Value} {x : Value} {s : String} : x ∈ xs → HasText x s → HasText (.list xs) s
  | entry {es : List (Value × Value)} {e : Value × Value} {s : String} :
      e ∈ es → HasText e.2 s → HasText (.map es) s

/-- One of the texts of the value has the reference. -/
def Refers (v : Value) (r : Reference) : Prop :=
  ∃ s fs, v.HasText s ∧ Fragment.Leftmost s.toList fs ∧ .reference r ∈ fs

theorem refers_str {s : String} {r : Reference} :
    (Value.str s).Refers r ↔ .reference r ∈ Fragment.scan s.toList := by
  constructor
  · rintro ⟨_, fs, ⟨⟩, hfs, hr⟩
    rwa [Fragment.leftmost_iff.1 hfs]
  · exact fun h => ⟨s, _, .self s, Fragment.leftmost_scan _, h⟩

theorem refers_list {xs : List Value} {r : Reference} :
    (Value.list xs).Refers r ↔ ∃ x ∈ xs, x.Refers r := by
  constructor
  · rintro ⟨s, fs, hs, h⟩
    cases hs with
    | item hx hs => exact ⟨_, hx, s, fs, hs, h⟩
  · rintro ⟨x, hx, s, fs, hs, h⟩
    exact ⟨s, fs, .item hx hs, h⟩

theorem refers_map {es : List (Value × Value)} {r : Reference} :
    (Value.map es).Refers r ↔ ∃ e ∈ es, e.2.Refers r := by
  constructor
  · rintro ⟨s, fs, hs, h⟩
    cases hs with
    | entry he hs => exact ⟨_, he, s, fs, hs, h⟩
  · rintro ⟨e, he, s, fs, hs, h⟩
    exact ⟨s, fs, .entry he hs, h⟩

theorem not_refers_of_isWalked {v : Value} (h : v.isWalked = false) (r : Reference) :
    ¬ v.Refers r := by
  rintro ⟨s, fs, hs, -⟩
  cases hs <;> cases h

/-! ## Substitution in a value -/

variable {env : Environment} {strict : Bool}

theorem substituteItems_eq (xs : List Value) :
    substituteItems env strict xs = xs.mapM (substitute env strict) := by
  induction xs with
  | nil => rw [substituteItems]; rfl
  | cons x xs ih => rw [substituteItems, ih, List.mapM_cons]

theorem substituteEntries_eq (es : List (Value × Value)) :
    substituteEntries env strict es
      = es.mapM fun e => (e.1, ·) <$> substitute env strict e.2 := by
  induction es with
  | nil => rw [substituteEntries]; rfl
  | cons e es ih =>
      rw [substituteEntries, ih, List.mapM_cons, bind_map_left]

theorem substitute_eq_self {v : Value} (h : v.isWalked = false) :
    v.substitute env strict = .ok v := by
  rw [substitute.eq_def]
  split
  case h_4 => rfl
  all_goals cases h

theorem mapTexts_eq_self {v : Value} (h : v.isWalked = false) (g : String → Value) :
    v.mapTexts g = v := by
  rw [mapTexts.eq_def]
  split
  case h_4 => rfl
  all_goals cases h

theorem replaced_mapTexts {R : String → Value → Prop} {g : String → Value} (h : ∀ s, R s (g s))
    (v : Value) : v.Replaced R (v.mapTexts g) := by
  induction v using walk_induction with
  | text s =>
      rw [mapTexts]
      exact .text (h s)
  | list xs ih =>
      rw [mapTexts]
      refine .list ?_
      rw [List.forall₂_map_right_iff, List.forall₂_same]
      exact ih
  | map es ih =>
      rw [mapTexts]
      refine .map ?_ ?_
      · rw [List.map_map]
        rfl
      · rw [List.map_map, List.forall₂_map_right_iff, List.forall₂_map_left_iff, List.forall₂_same]
        exact ih
  | other v hv =>
      rw [mapTexts_eq_self hv]
      exact .other hv

/-- Substitution gives something just if it refuses none of the references in a value, and what it
    gives does not depend on the mode. -/
theorem substitute_eq_ok_iff {v w : Value} :
    v.substitute env strict = .ok w ↔
      (∀ r, v.Refers r → ¬ r.Refused env strict) ∧ w = v.mapTexts (filledText env) := by
  induction v using walk_induction generalizing w with
  | text s =>
      rw [substitute, mapTexts, substituteText_eq_ok_iff]
      simp only [refers_str]
  | list xs ih =>
      have hitems (ys : List Value) : xs.mapM (substitute env strict) = .ok ys ↔
          (∀ x ∈ xs, ∀ r, x.Refers r → ¬ r.Refused env strict) ∧
            ys = xs.map (mapTexts (filledText env)) :=
        mapM_eq_ok_iff_map fun x hx y => ih x hx
      have hrefers : (∀ r, (Value.list xs).Refers r → ¬ r.Refused env strict) ↔
          ∀ x ∈ xs, ∀ r, x.Refers r → ¬ r.Refused env strict := by
        simp only [refers_list]
        exact ⟨fun h x hx r hr => h r ⟨x, hx, hr⟩, fun h r ⟨x, hx, hr⟩ => h x hx r hr⟩
      rw [substitute, mapTexts, substituteItems_eq, bind_pure_comp, hrefers]
      exact map_eq_ok_iff hitems _
  | map es ih =>
      have hentries (fs : List (Value × Value)) :
          (es.mapM fun e => (e.1, ·) <$> e.2.substitute env strict) = .ok fs ↔
            (∀ e ∈ es, ∀ r, e.2.Refers r → ¬ r.Refused env strict) ∧
              fs = es.map fun e => (e.1, e.2.mapTexts (filledText env)) :=
        mapM_eq_ok_iff_map fun e he f => map_eq_ok_iff (fun y => ih e he) (e.1, ·)
      have hrefers : (∀ r, (Value.map es).Refers r → ¬ r.Refused env strict) ↔
          ∀ e ∈ es, ∀ r, e.2.Refers r → ¬ r.Refused env strict := by
        simp only [refers_map]
        exact ⟨fun h e he r hr => h r ⟨e, he, hr⟩, fun h r ⟨e, he, hr⟩ => h e he r hr⟩
      rw [substitute, mapTexts, substituteEntries_eq, bind_pure_comp, hrefers]
      exact map_eq_ok_iff hentries _
  | other v hv =>
      rw [substitute_eq_self hv, mapTexts_eq_self hv]
      simp [not_refers_of_isWalked hv, eq_comm]

/-- **When substitution fails.** In strict mode it gives something just if every reference in a
    value, at any depth, is to a variable that is set, if only to nothing. Otherwise it fails just if a
    reference to a variable that is not set demands it. What strict mode gives, the other gives as
    well. -/
theorem substitute_succeeds_iff (env : Environment) (v : Value) :
    ((∃ w, v.substitute env true = .ok w) ↔ ∀ r, v.Refers r → r.IsSet env) ∧
    (∀ w, v.substitute env true = .ok w → v.substitute env false = .ok w) ∧
    ((∃ fault, v.substitute env false = .error fault) ↔
      ∃ r, v.Refers r ∧ ¬ r.IsSet env ∧ r.Demands) := by
  have hstrict (r : Reference) : ¬ r.Refused env true ↔ r.IsSet env := by
    simp [Reference.Refused]
  have hlenient (r : Reference) : r.Refused env false ↔ ¬ r.IsSet env ∧ r.Demands := by
    simp [Reference.Refused]
  refine ⟨?_, fun w h => ?_, ?_⟩
  · simp [substitute_eq_ok_iff, hstrict]
  · obtain ⟨hset, rfl⟩ := substitute_eq_ok_iff.1 h
    refine substitute_eq_ok_iff.2 ⟨fun r hr => ?_, rfl⟩
    rw [hlenient]
    exact fun hr' => hr'.1 ((hstrict r).1 (hset r hr))
  · rw [exists_eq_error_iff]
    simp [substitute_eq_ok_iff, hlenient]

/-- A variable may be set to nothing, and a modifier may be malformed. -/
theorem substitute_succeeds_modes :
    (∃ w, (Value.map [(.str "$\x7bK\x7d", .list [.str "a$\x7bNONE\x7d$\x7bHOME:-b\x7d"])]).substitute
        [("HOME", "/srv"), ("NONE", "")] false = .ok w) ∧
      ∃ r, (Value.list [.str "$$\x7bPORT", .str "$\x7bPORT?\x7b\x7d"]).Refers r ∧
        ¬ r.IsSet [("HOME", "/srv"), ("NONE", "")] ∧ r.Demands := by
  constructor
  · have hok : ((Value.map [(.str "$\x7bK\x7d",
        .list [.str "a$\x7bNONE\x7d$\x7bHOME:-b\x7d"])]).substitute
          [("HOME", "/srv"), ("NONE", "")] true).isOk = true := by decide +kernel
    obtain ⟨w, hw⟩ := exists_eq_ok_of_isOk hok
    exact ⟨w, (substitute_succeeds_iff _ _).2.1 w hw⟩
  · refine (substitute_succeeds_iff _ _).2.2.1 (exists_eq_error_iff.2 ?_)
    rintro ⟨w, hw⟩
    have hfails : ((Value.list [.str "$$\x7bPORT", .str "$\x7bPORT?\x7b\x7d"]).substitute
        [("HOME", "/srv"), ("NONE", "")] false).isOk = false := by decide +kernel
    rw [hw] at hfails
    cases hfails

/-- What substitution gives depends on no variables but those that the value refers to. -/
theorem substitute_congr {env env' : Environment} {v : Value}
    (h : ∀ r, v.Refers r →
      env'.lookup (String.ofList r.name) = env.lookup (String.ofList r.name)) :
    v.substitute env' strict = v.substitute env strict := by
  induction v using walk_induction with
  | text s =>
      have hfragments : ∀ f ∈ Fragment.scan s.toList,
          f.resolve env' strict = f.resolve env strict := by
        intro f hf
        cases f with
        | text cs => rfl
        | reference r =>
            rw [Fragment.resolve, Fragment.resolve, Reference.resolve, Reference.resolve,
              h r (refers_str.2 hf)]
      rw [substitute, substitute, substituteText_eq, substituteText_eq,
        mapM_congr_of_mem hfragments]
  | list xs ih =>
      have hitems : ∀ x ∈ xs, x.substitute env' strict = x.substitute env strict :=
        fun x hx => ih x hx fun r hr => h r (refers_list.2 ⟨x, hx, hr⟩)
      rw [substitute, substitute, substituteItems_eq, substituteItems_eq, mapM_congr_of_mem hitems]
  | map es ih =>
      have hentries : ∀ e ∈ es, ((e.1, ·) <$> e.2.substitute env' strict)
          = (e.1, ·) <$> e.2.substitute env strict := by
        intro e he
        rw [ih e he fun r hr => h r (refers_map.2 ⟨e, he, hr⟩)]
      rw [substitute, substitute, substituteEntries_eq, substituteEntries_eq,
        mapM_congr_of_mem hentries]
  | other v hv => rw [substitute_eq_self hv, substitute_eq_self hv]

/-- **Substitution is local and done once.** It keeps keys and their order, the lengths of lists, and
    all that is no text. In a text it keeps all but the references, and what stands for these is not
    looked through again. A text becomes a truth value or a number only if it is one whole reference
    that something else stands for. All this depends on no variables but those referred to. -/
theorem substitute_local (env : Environment) (strict : Bool) (v : Value) :
    (∀ w, v.substitute env strict = .ok w → v.Replaced (Filled env) w) ∧
    (∀ s w, Filled env s w → (∃ t, w = .str t) ∨ (w.IsScalar ∧
      ∃ r : Reference, r.WellFormed ∧ s.toList = r.source ∧ r.replacement env ≠ r.source)) ∧
    (∀ env' : Environment,
      (∀ r, v.Refers r →
        env'.lookup (String.ofList r.name) = env.lookup (String.ofList r.name)) →
      v.substitute env' strict = v.substitute env strict) := by
  refine ⟨fun w h => ?_, fun s w h => h.cases_scalar, fun env' h => substitute_congr h⟩
  obtain ⟨-, rfl⟩ := substitute_eq_ok_iff.1 h
  exact replaced_mapTexts (filled_filledText env) v

/-- What is put in may look like a reference, and so may a key. -/
theorem substitute_local_nested :
    ∃ w, (Value.map [(.str "$\x7bA\x7d", .list [.str "$\x7bA\x7d $\x7bB:2\x7d"])]).substitute
        [("A", "$\x7bC\x7d")] false = .ok w ∧
      (Value.map [(.str "$\x7bA\x7d", .list [.str "$\x7bA\x7d $\x7bB:2\x7d"])]).Replaced
        (Filled [("A", "$\x7bC\x7d")]) w ∧
      (Value.map [(.str "$\x7bA\x7d", .list [.str "$\x7bA\x7d $\x7bB:2\x7d"])]).substitute
        [("C", "1"), ("A", "$\x7bC\x7d")] false = .ok w := by
  have hok : ((Value.map [(.str "$\x7bA\x7d", .list [.str "$\x7bA\x7d $\x7bB:2\x7d"])]).substitute
      [("A", "$\x7bC\x7d")] false).isOk = true := by decide +kernel
  obtain ⟨w, hw⟩ := exists_eq_ok_of_isOk hok
  obtain ⟨hreplaced, -, hagree⟩ := substitute_local [("A", "$\x7bC\x7d")] false
    (.map [(.str "$\x7bA\x7d", .list [.str "$\x7bA\x7d $\x7bB:2\x7d"])])
  refine ⟨w, hw, hreplaced w hw, (hagree _ fun r hr => ?_).trans hw⟩
  have hscan : Fragment.scan "$\x7bA\x7d $\x7bB:2\x7d".toList
      = [.reference ⟨['A'], none⟩, .text [' '], .reference ⟨['B'], some [':', '2']⟩] := by
    decide +kernel
  simp only [refers_map, refers_list, List.mem_singleton, exists_eq_left, refers_str, hscan] at hr
  have hr : r = ⟨['A'], none⟩ ∨ r = ⟨['B'], some [':', '2']⟩ := by simpa using hr
  rcases hr with rfl | rfl <;> decide +kernel

end Value

end Stencil
