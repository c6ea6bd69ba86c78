import Mathlib.Data.List.Find
import Mathlib.Data.List.Forall2
import Mathlib.Data.List.Pairwise
import Stencil.Helper.Builtins

set_option autoImplicit false

/-! # Equality of values

Without fractions among them, values fall into classes that the helpers for equality tell apart
(`strictlyEqual_equivalence`): equality is an equivalence, in which truth values stand by
themselves, and it takes no notice of the order of the entries of a mapping.

Symmetry and transitivity are found together, as one property of a value: whatever it is equal to
is equal to the same values as it is (`Value.Replaceable`). A scalar has it because it is compared
by its content alone, a sequence because its items have it. Two mappings are equal if the entries of
the one are matched with those of the other; as keys are distinct, that goes both ways
(`exists_left_of_matching`). -/

namespace Stencil

/-! ## Values without fractions -/

namespace Value

/-- Whether a value is built without fractions: from nothing, truth values, integers, texts, bytes,
    days and moments, by lists, tuples and mappings in which no two keys are equal. -/
inductive Exact : Value → Prop
  | null : Exact .null
  | bool (b : Bool) : Exact (.bool b)
  | int (n : Int) : Exact (.int n)
  | str (s : String) : Exact (.str s)
  | bytes (b : List UInt8) : Exact (.bytes b)
  | date (d : Date) : Exact (.date d)
  | moment (m : Moment) : Exact (.moment m)
  | list {items : List Value} (h : ∀ x ∈ items, Exact x) : Exact (.list items)
  | tuple {items : List Value} (h : ∀ x ∈ items, Exact x) : Exact (.tuple items)
  | map {es : Entries} (hkeys : ∀ e ∈ es, Exact e.1) (hvalues : ∀ e ∈ es, Exact e.2)
      (hdistinct : es.Pairwise fun e f => e.1.equal f.1 = false) : Exact (.map es)

/-- A value is equal to itself, and what it is equal to is equal to the same values. -/
structure Replaceable (a : Value) : Prop where
  refl : a.equal a = true
  congr : ∀ {b c : Value}, b.Exact → c.Exact → a.equal b = true → b.equal c = a.equal c

theorem Replaceable.symm {a b : Value} (h : a.Replaceable) (ha : a.Exact) (hb : b.Exact)
    (hab : a.equal b = true) : b.equal a = true := by
  rw [h.congr hb ha hab]
  exact h.refl

/-! ## Scalars -/

/-- What a value that holds no others is compared by. -/
inductive Content
  | nothing
  | number (n : Int)
  | text (s : String)
  | bytes (b : List UInt8)
  | day (d : Date)
  /-- The microseconds of a moment, of universal time if its offset is known. -/
  | instant (isUniversal : Bool) (micros : Int)
  deriving DecidableEq

/-- The content of a value without fractions, if it holds no other values. -/
def content? : Value → Option Content
  | .null => some .nothing
  | .bool b => some (.number (if b then 1 else 0))
  | .int n => some (.number n)
  | .str s => some (.text s)
  | .bytes b => some (.bytes b)
  | .date d => some (.day d)
  | .moment m =>
    some (.instant m.offset.isSome (m.clockMicros - (m.offset.getD .utc).micros))
  | _ => none

theorem same_int (m n : Int) : Number.same (.int m) (.int n) = decide (m = n) := by
  rw [Bool.eq_iff_iff]
  simp [Number.same, Number.compare?, Number.place, Double.Place.compare?]

theorem same_moment (m n : Moment) :
    m.same n = decide ((Value.moment m).content? = (Value.moment n).content?) := by
  rw [Bool.eq_iff_iff]
  cases hm : m.offset <;> cases hn : n.offset <;> simp [Moment.same, content?, hm, hn]

/-- Scalars are compared by their content. -/
theorem equal_of_content? {a b : Value} (ha : a.content?.isSome) (hb : b.Exact) :
    a.equal b = decide (a.content? = b.content?) := by
  cases a <;> cases ha <;> cases hb
  case moment.refl.moment m n =>
    rw [equal, scalarEqual, same_moment]
    all_goals simp
  all_goals
    rw [Bool.eq_iff_iff]
    simp [equal, scalarEqual, number?, content?, same_int]

theorem replaceable_of_content? {a : Value} (ha : a.content?.isSome) (hexact : a.Exact) :
    a.Replaceable := by
  refine ⟨by rw [equal_of_content? ha hexact, decide_eq_true rfl], fun {b c} hb hc hab => ?_⟩
  rw [equal_of_content? ha hb, decide_eq_true_iff] at hab
  rw [equal_of_content? (hab ▸ ha) hc, equal_of_content? ha hc, hab]

/-! ## Sequences -/

theorem equalItems_iff {xs ys : List Value} :
    equalItems xs ys = true ↔ List.Forall₂ (fun x y => x.equal y = true) xs ys := by
  induction xs generalizing ys with
  | nil => cases ys <;> simp [equalItems]
  | cons x xs ih => cases ys <;> simp [equalItems, ih]

theorem equalItems_congr {xs : List Value} (hxs : ∀ x ∈ xs, x.Replaceable) :
    ∀ {ys zs : List Value}, (∀ y ∈ ys, y.Exact) → (∀ z ∈ zs, z.Exact) →
      equalItems xs ys = true → equalItems ys zs = equalItems xs zs := by
  induction xs with
  | nil =>
      intro ys zs _ _ h
      cases equalItems_iff.1 h
      rfl
  | cons x xs ih =>
      intro ys zs hys hzs h
      obtain ⟨hx, hxs⟩ := List.forall_mem_cons.1 hxs
      obtain ⟨y, ys, hxy, hxys, rfl⟩ := List.forall₂_cons_left_iff.1 (equalItems_iff.1 h)
      obtain ⟨hy, hys⟩ := List.forall_mem_cons.1 hys
      cases zs with
      | nil => simp [equalItems]
      | cons z zs =>
          obtain ⟨hz, hzs⟩ := List.forall_mem_cons.1 hzs
          rw [equalItems, equalItems, hx.congr hy hz hxy, ih hxs hys hzs (equalItems_iff.2 hxys)]

theorem equalItems_refl {xs : List Value} (hxs : ∀ x ∈ xs, x.Replaceable) :
    equalItems xs xs = true :=
  equalItems_iff.2 (List.forall₂_same.2 fun x hx => (hxs x hx).refl)

end Value

/-! ## Matching -/

/-- If each of some things is matched by one of no more others and no two are matched by the same,
    then each of the others matches one of them. -/
theorem exists_left_of_matching {α β : Type} {R : α → β → Prop} {xs : List α} :
    ∀ {ys : List β}, ys.length ≤ xs.length → (∀ x ∈ xs, ∃ y ∈ ys, R x y) →
      (xs.Pairwise fun x x' => ∀ y ∈ ys, R x y → ¬R x' y) → ∀ y ∈ ys, ∃ x ∈ xs, R x y := by
  induction xs with
  | nil =>
      intro ys hlength _ _ y hy
      rw [List.eq_nil_of_length_eq_zero (Nat.le_zero.1 hlength)] at hy
      cases hy
  | cons x xs ih =>
      intro ys hlength hmatch hapart y hy
      obtain ⟨hx, hxs⟩ := List.pairwise_cons.1 hapart
      obtain ⟨⟨y₀, hy₀, hxy₀⟩, hmatch⟩ := List.forall_mem_cons.1 hmatch
      obtain ⟨front, back, rfl⟩ := List.append_of_mem hy₀
      have hrest : ∀ z ∈ front ++ back, z ∈ front ++ y₀ :: back := fun z hz =>
        (List.mem_append.1 hz).elim (List.mem_append_left _) fun hz => by simp [hz]
      have hlength : (front ++ back).length ≤ xs.length := by
        simp only [List.length_append, List.length_cons] at hlength ⊢
        omega
      have hmatch : ∀ x' ∈ xs, ∃ y ∈ front ++ back, R x' y := by
        intro x' hx'
        obtain ⟨y', hy', hxy'⟩ := hmatch x' hx'
        have hne : y' ≠ y₀ := fun h => hx x' hx' y₀ hy₀ hxy₀ (h ▸ hxy')
        refine ⟨y', ?_, hxy'⟩
        simpa [hne] using hy'
      by_cases h : y = y₀
      · exact ⟨x, List.mem_cons_self, h ▸ hxy₀⟩
      · have hxs := hxs.imp fun hapart z hz => hapart z (hrest z hz)
        obtain ⟨x', hx', hxy⟩ := ih hlength hmatch hxs y (by simpa [h] using hy)
        exact ⟨x', List.mem_cons_of_mem _ hx', hxy⟩

/-! ## Mappings -/

namespace Value

/-- Whether an entry is found, by an equal key and with an equal value, in a mapping. -/
def foundIn (fs : Entries) (e : Value × Value) : Bool :=
  (fs.find? fun f => e.1.equal f.1).any fun f => e.2.equal f.2

theorem entriesWithin_eq_all (es fs : Entries) : entriesWithin es fs = es.all (foundIn fs) := by
  induction es with
  | nil => simp [entriesWithin]
  | cons e es ih =>
      rw [entriesWithin, ih, List.all_cons, foundIn]
      cases fs.find? fun f => e.1.equal f.1 <;> rfl

theorem equal_map (es fs : Entries) :
    (map es).equal (map fs) = (es.length == fs.length && es.all (foundIn fs)) := by
  rw [equal, entriesWithin_eq_all]

/-- Both the keys and the values of two entries are equal. -/
def Matches (e f : Value × Value) : Prop :=
  e.1.equal f.1 = true ∧ e.2.equal f.2 = true

section

variable {es fs gs : Entries}

theorem Exact.key (h : (Value.map es).Exact) : ∀ e ∈ es, e.1.Exact := by
  cases h
  assumption

theorem Exact.value (h : (Value.map es).Exact) : ∀ e ∈ es, e.2.Exact := by
  cases h
  assumption

theorem Exact.distinct (h : (Value.map es).Exact) :
    es.Pairwise fun e f => e.1.equal f.1 = false := by
  cases h
  assumption

/-- No two keys of a mapping are equal to the same value. -/
theorem Exact.key_unique (h : (Value.map es).Exact) {k : Value} (hk : k.Replaceable) :
    ∀ e ∈ es, k.equal e.1 = true → ∀ f ∈ es, k.equal f.1 = true → e = f := by
  have hapart {e f : Value × Value} (he : e ∈ es) (hf : f ∈ es) (hef : e.1.equal f.1 = false)
      (hke : k.equal e.1 = true) : k.equal f.1 = false := by
    rwa [← hk.congr (h.key e he) (h.key f hf) hke]
  have hunique : ∀ ⦃e⦄, e ∈ es → ∀ ⦃f⦄, f ∈ es →
      k.equal e.1 = true → k.equal f.1 = true → e = f := by
    refine List.Pairwise.forall_of_forall_of_flip (fun _ _ _ _ => rfl) ?_ ?_
    · refine h.distinct.imp_of_mem fun he hf hef hke hkf => ?_
      rw [hapart he hf hef hke] at hkf
      cases hkf
    · refine h.distinct.imp_of_mem fun he hf hef hkf hke => ?_
      rw [hapart he hf hef hke] at hkf
      cases hkf
  exact fun e he hke f hf hkf => hunique he hf hke hkf

/-- An entry is found where there is one that matches it, as no other one has an equal key. -/
theorem foundIn_iff (h : (map fs).Exact) {e : Value × Value} (he : e.1.Replaceable) :
    foundIn fs e = true ↔ ∃ f ∈ fs, Matches e f := by
  rw [foundIn, Option.any_eq_true]
  constructor
  · rintro ⟨f, hfind, hvalue⟩
    have hkey := List.find?_some hfind
    exact ⟨f, List.mem_of_find?_eq_some hfind, hkey, hvalue⟩
  · rintro ⟨f, hf, hkey, hvalue⟩
    have hsome : (fs.find? fun f => e.1.equal f.1).isSome :=
      List.find?_isSome.2 ⟨f, hf, hkey⟩
    obtain ⟨g, hfind⟩ := Option.isSome_iff_exists.1 hsome
    have hkey' := List.find?_some hfind
    obtain rfl : f = g := h.key_unique he f hf hkey g (List.mem_of_find?_eq_some hfind) hkey'
    exact ⟨f, hfind, hvalue⟩

/-- Mappings are equal if they have as many entries, and each of the one is matched in the other. -/
theorem equal_map_iff (hkeys : ∀ e ∈ es, e.1.Replaceable) (h : (map fs).Exact) :
    (map es).equal (map fs) = true ↔
      es.length = fs.length ∧ ∀ e ∈ es, ∃ f ∈ fs, Matches e f := by
  rw [equal_map, Bool.and_eq_true, beq_iff_eq, List.all_eq_true]
  exact and_congr_right fun _ => forall₂_congr fun e he => foundIn_iff h (hkeys e he)

/-- Entries that match are found in the same mappings. -/
theorem foundIn_congr (hgs : (map gs).Exact) {e f : Value × Value} (hkey : e.1.Replaceable)
    (hvalue : e.2.Replaceable) (hfkey : f.1.Exact) (hfvalue : f.2.Exact) (h : Matches e f) :
    foundIn gs f = foundIn gs e := by
  have hfind : gs.find? (fun g => f.1.equal g.1) = gs.find? fun g => e.1.equal g.1 :=
    List.find?_congr fun g hg => hkey.congr hfkey (hgs.key g hg) h.1
  rw [foundIn, foundIn, hfind]
  cases hg : gs.find? fun g => e.1.equal g.1 with
  | none => rfl
  | some g => exact hvalue.congr hfvalue (hgs.value g (List.mem_of_find?_eq_some hg)) h.2

variable (h : (map es).Exact) (hkeys : ∀ e ∈ es, e.1.Replaceable)

include h hkeys

/-- If a mapping is equal to another one, each entry of the other is matched too. -/
theorem exists_matches_left (hfs : (map fs).Exact) (heq : (map es).equal (map fs) = true) :
    ∀ f ∈ fs, ∃ e ∈ es, Matches e f := by
  obtain ⟨hlength, hmatch⟩ := (equal_map_iff hkeys hfs).1 heq
  refine exists_left_of_matching (Nat.le_of_eq hlength.symm) hmatch ?_
  refine h.distinct.imp_of_mem fun {e e'} he he' hne f hf hef hef' => ?_
  have hback : f.1.equal e'.1 = true :=
    (hkeys e' he').symm (h.key e' he') (hfs.key f hf) hef'.1
  rw [(hkeys e he).congr (hfs.key f hf) (h.key e' he') hef.1, hne] at hback
  cases hback

theorem replaceable_map (hvalues : ∀ e ∈ es, e.2.Replaceable) : (map es).Replaceable := by
  refine ⟨?_, fun {b c} hb hc hab => ?_⟩
  · refine (equal_map_iff hkeys h).2 ⟨rfl, fun e he => ⟨e, he, ?_⟩⟩
    exact ⟨(hkeys e he).refl, (hvalues e he).refl⟩
  · cases b with
    | map fs =>
        cases c with
        | map gs =>
            have hfound {e f} (he : e ∈ es) (hf : f ∈ fs) (hmatch : Matches e f) :
                foundIn gs f = foundIn gs e :=
              foundIn_congr hc (hkeys e he) (hvalues e he) (hb.key f hf) (hb.value f hf) hmatch
            obtain ⟨hlength, hright⟩ := (equal_map_iff hkeys hb).1 hab
            have hleft := exists_matches_left h hkeys hb hab
            have hall : fs.all (foundIn gs) = es.all (foundIn gs) := by
              rw [Bool.eq_iff_iff, List.all_eq_true, List.all_eq_true]
              constructor
              · intro hfs e he
                obtain ⟨f, hf, hmatch⟩ := hright e he
                exact hfound he hf hmatch ▸ hfs f hf
              · intro hes f hf
                obtain ⟨e, he, hmatch⟩ := hleft f hf
                exact hfound he hf hmatch ▸ hes e he
            rw [equal_map, equal_map, hall, hlength]
        | _ => simp [equal, scalarEqual, number?]
    | _ => simp [equal, scalarEqual, number?] at hab

end

/-! ## All values without fractions -/

/-- Values that hold items and are compared item by item. -/
theorem replaceable_of_items {mk : List Value → Value}
    (hequal : ∀ xs ys, (mk xs).equal (mk ys) = equalItems xs ys)
    (hitems : ∀ {xs}, (mk xs).Exact → ∀ x ∈ xs, x.Exact)
    (hothers : ∀ {b : Value}, b.Exact → (∃ ys, b = mk ys) ∨ ∀ xs, (mk xs).equal b = false)
    {xs : List Value} (hxs : ∀ x ∈ xs, x.Replaceable) : (mk xs).Replaceable := by
  refine ⟨by rw [hequal, equalItems_refl hxs], fun {b c} hb hc hab => ?_⟩
  rcases hothers hb with ⟨ys, rfl⟩ | hb
  · rcases hothers hc with ⟨zs, rfl⟩ | hc
    · rw [hequal] at hab
      rw [hequal, hequal, equalItems_congr hxs (hitems hb) (hitems hc) hab]
    · rw [hc, hc]
  · rw [hb] at hab
    cases hab

theorem Exact.replaceable {a : Value} (h : a.Exact) : a.Replaceable := by
  induction h with
  | @list items _ ih | @tuple items _ ih =>
      refine replaceable_of_items (fun xs ys => by rw [equal]) (fun h => ?_) (fun {b} hb => ?_) ih
      · cases h
        assumption
      · -- A sequence of the other kind is like any other value.
        cases hb
        all_goals first
          | exact Or.inl ⟨_, rfl⟩
          | exact Or.inr fun xs => by simp [equal, scalarEqual, number?]
  | map hkeys hvalues hdistinct ihkeys ihvalues =>
      exact replaceable_map (.map hkeys hvalues hdistinct) ihkeys ihvalues
  | _ => exact replaceable_of_content? rfl (by constructor)

section

variable {a b c : Value} (ha : a.Exact) (hb : b.Exact)

include ha hb

theorem Exact.equal_symm (h : a.equal b = true) : b.equal a = true :=
  ha.replaceable.symm ha hb h

theorem Exact.equal_comm : a.equal b = b.equal a :=
  Bool.eq_iff_iff.2 ⟨ha.equal_symm hb, hb.equal_symm ha⟩

theorem Exact.equal_trans (hc : c.Exact) (hab : a.equal b = true) (hbc : b.equal c = true) :
    a.equal c = true :=
  ha.replaceable.congr hb hc hab ▸ hbc

end

/-! ## The order of entries -/

/-- The same value, where the entries of mappings may be in another order. What can be looked up
    holds no mappings, so keys stay as they are. -/
inductive Reordered : Value → Value → Prop
  | refl (a : Value) : Reordered a a
  | trans {a b c : Value} : Reordered a b → Reordered b c → Reordered a c
  | entries {es fs : Entries} : es.Perm fs → Reordered (.map es) (.map fs)
  | listItem (front back : List Value) {x y : Value} : Reordered x y →
      Reordered (.list (front ++ x :: back)) (.list (front ++ y :: back))
  | tupleItem (front back : List Value) {x y : Value} : Reordered x y →
      Reordered (.tuple (front ++ x :: back)) (.tuple (front ++ y :: back))
  | value (front back : Entries) (key : Value) {x y : Value} : Reordered x y →
      Reordered (.map (front ++ (key, x) :: back)) (.map (front ++ (key, y) :: back))

/-- What holds of all and of something that takes the place of one still holds of all. -/
theorem forall_mem_replace {α : Type} {P : α → Prop} {front back : List α} {x y : α}
    (h : ∀ z ∈ front ++ x :: back, P z) (hy : P y) : ∀ z ∈ front ++ y :: back, P z := by
  rw [List.forall_mem_append, List.forall_mem_cons] at h ⊢
  exact ⟨h.1, hy, h.2.2⟩

theorem equalItems_replace {front back : List Value} {x y : Value}
    (h : ∀ z ∈ front ++ x :: back, z.Exact) (hxy : x.equal y = true) :
    equalItems (front ++ x :: back) (front ++ y :: back) = true := by
  rw [List.forall_mem_append, List.forall_mem_cons] at h
  obtain ⟨hfront, -, hback⟩ := h
  have hsame {zs : List Value} (hzs : ∀ z ∈ zs, z.Exact) :
      List.Forall₂ (fun x y => x.equal y = true) zs zs :=
    List.forall₂_same.2 fun z hz => (hzs z hz).replaceable.refl
  exact equalItems_iff.2 (List.rel_append (hsame hfront) (.cons hxy (hsame hback)))

theorem Exact.entries {es fs : Entries} (h : (Value.map es).Exact) (hperm : es.Perm fs) :
    (Value.map fs).Exact ∧ (Value.map es).equal (.map fs) = true := by
  have hapart : es.Pairwise fun e f => e.1.equal f.1 = false ∧ f.1.equal e.1 = false :=
    h.distinct.imp_of_mem fun he hf hef =>
      ⟨hef, by rwa [(h.key _ hf).equal_comm (h.key _ he)]⟩
  have hfs : (Value.map fs).Exact :=
    .map (fun f hf => h.key f (hperm.mem_iff.2 hf)) (fun f hf => h.value f (hperm.mem_iff.2 hf))
      ((hapart.perm hperm And.symm).imp And.left)
  refine ⟨hfs, (equal_map_iff (fun e he => (h.key e he).replaceable) hfs).2
    ⟨hperm.length_eq, fun e he => ⟨e, hperm.mem_iff.1 he, ?_⟩⟩⟩
  exact ⟨(h.key e he).replaceable.refl, (h.value e he).replaceable.refl⟩

theorem Exact.replaceValue {front back : Entries} {key x y : Value}
    (h : (Value.map (front ++ (key, x) :: back)).Exact) (hy : y.Exact) (hxy : x.equal y = true) :
    (Value.map (front ++ (key, y) :: back)).Exact ∧
      (Value.map (front ++ (key, x) :: back)).equal (.map (front ++ (key, y) :: back)) = true := by
  have hkey : key.Exact := h.key (key, x) (by simp)
  have hafter : (Value.map (front ++ (key, y) :: back)).Exact := by
    refine .map (forall_mem_replace h.key hkey) (forall_mem_replace h.value hy) ?_
    simpa [List.pairwise_append] using h.distinct
  have hsame : ∀ e ∈ front ++ (key, x) :: back, Matches e e := fun e he =>
    ⟨(h.key e he).replaceable.refl, (h.value e he).replaceable.refl⟩
  refine ⟨hafter, (equal_map_iff (fun e he => (h.key e he).replaceable) hafter).2 ⟨by simp, ?_⟩⟩
  intro e he
  by_cases hplace : e = (key, x)
  · exact ⟨(key, y), by simp, hplace ▸ ⟨hkey.replaceable.refl, hxy⟩⟩
  · refine ⟨e, ?_, hsame e he⟩
    have hrest : e ∈ front ∨ e ∈ back := by simpa [hplace] using he
    rw [List.mem_append, List.mem_cons]
    exact hrest.imp_right Or.inr

/-- A value whose entries are put in another order is equal to what it was before. -/
theorem Reordered.equal {a b : Value} (h : Reordered a b) (ha : a.Exact) :
    b.Exact ∧ a.equal b = true := by
  induction h with
  | refl a => exact ⟨ha, ha.replaceable.refl⟩
  | trans _ _ ih ih' =>
      obtain ⟨hb, hab⟩ := ih ha
      obtain ⟨hc, hbc⟩ := ih' hb
      exact ⟨hc, ha.equal_trans hb hc hab hbc⟩
  | entries hperm => exact ha.entries hperm
  | listItem front back _ ih | tupleItem front back _ ih =>
      cases ha
      rename_i hitems
      obtain ⟨hy, hxy⟩ := ih (hitems _ (by simp))
      have hitems' := forall_mem_replace hitems hy
      refine ⟨by constructor; exact hitems', ?_⟩
      rw [Value.equal, equalItems_replace hitems hxy]
  | value front back key _ ih =>
      obtain ⟨hy, hxy⟩ := ih (ha.value (key, _) (by simp))
      exact ha.replaceValue hy hxy

theorem Reordered.isTruthValue_eq {a b : Value} (h : Reordered a b) :
    Helper.isTruthValue a = Helper.isTruthValue b := by
  induction h with
  | trans _ _ ih ih' => exact ih.trans ih'
  | _ => rfl

end Value

/-! ## The helpers for equality -/

/-- What the helper of a name in the library makes of two values. -/
def Builtin.outcome? (name : String) (a b : Value) (scope : Scope) : Option (Outcome Value) :=
  (registry.get? name).map fun run => run [a, b] scope

namespace Helper

variable {a b c : Value}

theorem strictlyEqual_eq_true_iff :
    strictlyEqual a b = true ↔ isTruthValue a = isTruthValue b ∧ a.equal b = true := by
  rw [strictlyEqual, Bool.and_eq_true, beq_iff_eq]

/-- What a value is strictly equal to is strictly equal to the same values. -/
theorem strictlyEqual_congr (ha : a.Exact) (hb : b.Exact) (hc : c.Exact)
    (h : strictlyEqual a b = true) : strictlyEqual b c = strictlyEqual a c := by
  obtain ⟨htruth, hequal⟩ := strictlyEqual_eq_true_iff.1 h
  rw [strictlyEqual, strictlyEqual, htruth, ha.replaceable.congr hb hc hequal]

theorem strictlyEqual_comm (ha : a.Exact) (hb : b.Exact) :
    strictlyEqual a b = strictlyEqual b a := by
  rw [strictlyEqual, strictlyEqual, ha.equal_comm hb, Bool.beq_comm]

theorem strictlyEqual_of_reordered (ha : a.Exact) (h : Value.Reordered a b) :
    strictlyEqual a b = true :=
  strictlyEqual_eq_true_iff.2 ⟨h.isTruthValue_eq, (h.equal ha).2⟩

/-- **The helper for equality is an equivalence.** It says whether two values are strictly equal,
    and the helper for inequality says the opposite. A truth value is strictly equal to truth values
    only. Among values that are built without fractions, strict equality is an equivalence. So an
    argument may be replaced by one that is strictly equal to it, and the entries of all mappings in
    it may be put in another order. -/
theorem strictlyEqual_equivalence :
    (∀ a b scope, Builtin.outcome? "eq" a b scope = some (.ok (.bool (strictlyEqual a b))) ∧
      Builtin.outcome? "ne" a b scope = some (.ok (.bool (!strictlyEqual a b)))) ∧
    (∀ a b, isTruthValue a ≠ isTruthValue b → strictlyEqual a b = false) ∧
    Equivalence (fun a b : {v : Value // v.Exact} => strictlyEqual a b = true) ∧
    (∀ a a' b b' : Value, a.Exact → a'.Exact → b.Exact → b'.Exact →
      strictlyEqual a a' = true → strictlyEqual b b' = true →
      strictlyEqual a b = strictlyEqual a' b') ∧
    ∀ a a' b b' : Value, a.Exact → b.Exact → Value.Reordered a a' → Value.Reordered b b' →
      strictlyEqual a b = strictlyEqual a' b' := by
  have hreplace : ∀ a a' b b' : Value, a.Exact → a'.Exact → b.Exact → b'.Exact →
      strictlyEqual a a' = true → strictlyEqual b b' = true →
      strictlyEqual a b = strictlyEqual a' b' := by
    intro a a' b b' ha ha' hb hb' haa' hbb'
    rw [← strictlyEqual_congr ha ha' hb haa', strictlyEqual_comm ha' hb,
      ← strictlyEqual_congr hb hb' ha' hbb', strictlyEqual_comm hb' ha']
  refine ⟨fun a b scope => ⟨rfl, rfl⟩, fun a b h => ?_, ⟨?_, ?_, ?_⟩, hreplace, ?_⟩
  · rw [strictlyEqual, beq_false_of_ne h, Bool.false_and]
  · exact fun a => strictlyEqual_of_reordered a.2 (.refl _)
  · intro a b h
    rw [strictlyEqual_comm b.2 a.2, h]
  · intro a b c hab hbc
    rw [← strictlyEqual_congr a.2 b.2 c.2 hab, hbc]
  · intro a a' b b' ha hb haa' hbb'
    exact hreplace a a' b b' ha (haa'.equal ha).1 hb (hbb'.equal hb).1
      (strictlyEqual_of_reordered ha haa') (strictlyEqual_of_reordered hb hbb')

/-- Two mappings with a key that is an integer in the one and a truth value in the other, and with
    one instant told on two clocks. -/
theorem strictlyEqual_equivalence_mixed :
    let noon : Moment := ⟨⟨2024, 2, 29⟩, 12, 0, 0, 0, some ⟨7200000000⟩⟩
    let ten : Moment := ⟨⟨2024, 2, 29⟩, 10, 0, 0, 0, some .utc⟩
    let a := Value.map [(.int 1, .list [.bool true]), (.str "at", .moment noon)]
    let b := Value.map [(.bool true, .list [.int 1]), (.str "at", .moment ten)]
    let b' := Value.map [(.str "at", .moment ten), (.bool true, .list [.int 1])]
    (a.Exact ∧ b.Exact ∧ Value.Reordered b b') ∧
    strictlyEqual a b = true ∧ strictlyEqual b a = true ∧ strictlyEqual a b' = true ∧
    isTruthValue (.bool true) ≠ isTruthValue (.int 1) ∧
    strictlyEqual (.bool true) (.int 1) = false := by
  intro noon ten a b b'
  have hexact {k x : Value} {m : Moment} (hk : k.Exact) (hx : x.Exact)
      (hne : k.equal (.str "at") = false) :
      (Value.map [(k, .list [x]), (.str "at", .moment m)]).Exact := by
    refine .map ?_ ?_ (by simp [hne])
    · simp [hk, Value.Exact.str]
    · simp [Value.Exact.list, hx, Value.Exact.moment]
  have ha : a.Exact := hexact (.int 1) (.bool true) (by decide +kernel)
  have hb : b.Exact := hexact (.bool true) (.int 1) (by decide +kernel)
  have hab : strictlyEqual a b = true := by decide +kernel
  obtain ⟨-, htruth, ⟨-, hsymm, -⟩, -, horder⟩ := strictlyEqual_equivalence
  have hreordered : Value.Reordered b b' := .entries (.swap _ _ _)
  refine ⟨⟨ha, hb, hreordered⟩, hab, @hsymm ⟨a, ha⟩ ⟨b, hb⟩ hab, ?_, by decide, ?_⟩
  · rw [← horder a a b b' ha hb (.refl a) hreordered, hab]
  · exact htruth _ _ (by decide)

end Helper

end Stencil
