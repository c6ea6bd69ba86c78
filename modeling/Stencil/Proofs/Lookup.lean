import Stencil.Render.Evaluate
import Stencil.Template.Variables

set_option autoImplicit false

/-! # What looking up a path depends on

Two scopes agree on some names if they give the same to each of them. A path is looked up by its
first segment first, so scopes that agree on that give the same for the whole path, and with it the
same for every argument whose path starts so. The scope of a loop's item binds the same names
whatever it is made from, so scopes that agree still do inside the loop. -/

namespace Stencil

/-! ## Entries under texts -/

namespace Value

/-- Only a text is equal to a text. -/
theorem equal_str {s : String} {v : Value} : (Value.str s).equal v = true ↔ v = .str s := by
  cases v with
  | str t =>
      rw [equal, scalarEqual, beq_iff_eq, Value.str.injEq, eq_comm]
      all_goals simp
  | _ => simp [equal, scalarEqual, number?]

/-- A text is equal to a text only. -/
theorem equal_str_right {s : String} {v : Value} : v.equal (.str s) = true ↔ v = .str s := by
  cases v with
  | str t =>
      rw [equal, scalarEqual, beq_iff_eq, Value.str.injEq]
      all_goals simp
  | _ => simp [equal, scalarEqual, number?]

end Value

namespace Entries

theorem field?_cons_self (name : String) (v : Value) (es : Entries) :
    field? ((.str name, v) :: es) name = some v := by
  have h : (Value.str name).equal (.str name) = true := Value.equal_str.2 rfl
  simp only [field?, get?, List.find?_cons, h, Option.map_some]

theorem field?_cons_of_ne {name : String} {key : Value} (h : key ≠ .str name) (v : Value)
    (es : Entries) : field? ((key, v) :: es) name = es.field? name := by
  have h : (Value.str name).equal key = false := by
    rw [← Bool.not_eq_true, Value.equal_str]
    exact h
  simp only [field?, get?, List.find?_cons, h]

theorem get?_cons (key query v : Value) (es : Entries) :
    get? ((key, v) :: es) query = if query.equal key then some v else es.get? query := by
  by_cases h : query.equal key = true
  · simp [get?, h]
  · simp [get?, h]

/-- An insertion shows under the keys that are equal to the new one and under no others, as far as
    equality goes on from key to key. -/
theorem get?_insert {key query : Value}
    (h : ∀ k, (key.equal k = true → query.equal k = query.equal key) ∧
      (query.equal key = true → query.equal k = key.equal k))
    (es : Entries) (v : Value) :
    (es.insert key v).get? query = if query.equal key then some v else es.get? query := by
  induction es with
  | nil => rw [insert, get?_cons]
  | cons e es ih =>
      obtain ⟨k, w⟩ := e
      obtain ⟨hreplaced, hkept⟩ := h k
      rw [insert]
      by_cases hk : key.equal k = true
      · rw [if_pos hk, get?_cons, get?_cons, hreplaced hk]
        split <;> rfl
      · rw [if_neg hk, get?_cons, get?_cons, ih]
        by_cases hq : query.equal key = true
        · rw [if_pos hq, if_pos hq, hkept hq, if_neg hk]
        · rw [if_neg hq, if_neg hq]

/-- What is found under any key after an insertion under a text. -/
theorem get?_insert_str (es : Entries) (name : String) (query v : Value) :
    (es.insert (.str name) v).get? query
      = if query.equal (.str name) then some v else es.get? query := by
  refine get?_insert (fun k => ⟨fun hk => ?_, fun hq => ?_⟩) es v
  · rw [Value.equal_str.1 hk]
  · rw [Value.equal_str_right.1 hq]

theorem get?_insert_of_ne {name : String} {query : Value} (h : query ≠ .str name) (es : Entries)
    (v : Value) : (es.insert (.str name) v).get? query = es.get? query := by
  rw [get?_insert_str, if_neg (mt Value.equal_str_right.1 h)]

theorem field?_insert (es : Entries) (key name : String) (v : Value) :
    (es.insert (.str key) v).field? name = if name = key then some v else es.field? name := by
  simp only [field?, get?_insert_str, Value.equal_str_right, Value.str.injEq]

/-- What is found under a text after an insertion under any key. -/
theorem field?_insert_value (es : Entries) (key : Value) (name : String) (v : Value) :
    (es.insert key v).field? name = (Entries.field? [(key, v)] name).or (es.field? name) := by
  have h : ∀ k, (key.equal k = true → (Value.str name).equal k = (Value.str name).equal key) ∧
      ((Value.str name).equal key = true → (Value.str name).equal k = key.equal k) := by
    refine fun k => ⟨fun hk => Bool.eq_iff_iff.2 ?_, fun hkey => by rw [Value.equal_str.1 hkey]⟩
    rw [Value.equal_str, Value.equal_str]
    constructor
    · rintro rfl
      exact Value.equal_str_right.1 hk
    · rintro rfl
      exact Value.equal_str.1 hk
  rw [field?, get?_insert h, field?, get?_cons]
  split <;> rfl

/-- Under a text there is what is written over the entries last, or else what was there before. -/
theorem field?_update (others : Entries) (name : String) : ∀ es : Entries,
    (es.update others).field? name = (Entries.field? others.reverse name).or (es.field? name) := by
  induction others with
  | nil => exact fun es => rfl
  | cons e others ih =>
      intro es
      have hlast : Entries.field? (e :: others).reverse name
          = (Entries.field? others.reverse name).or (Entries.field? [e] name) := by
        simp only [List.reverse_cons, field?, get?, List.find?_append, Option.map_or]
      rw [update, List.foldl_cons, ← update, ih, field?_insert_value, hlast, Option.or_assoc]

/-- A key that is not there goes to the end. -/
theorem insert_of_not_mem {es : Entries} {key : String} (h : ∀ e ∈ es, e.1 ≠ .str key)
    (v : Value) : es.insert (.str key) v = es ++ [(.str key, v)] := by
  induction es with
  | nil => rfl
  | cons e es ih =>
      obtain ⟨he, hes⟩ := List.forall_mem_cons.1 h
      have hne : (Value.str key).equal e.1 ≠ true := mt Value.equal_str.1 he
      rw [insert, if_neg hne, ih hes, List.cons_append]

/-- Entries under different texts that are not there go to the end in their order. -/
theorem update_of_nodup {α : Type} {key : α → String} {value : α → Value} (xs : List α) :
    ∀ {es : Entries}, (xs.map key).Nodup → (∀ x ∈ xs, ∀ e ∈ es, e.1 ≠ .str (key x)) →
      es.update (xs.map fun x => (.str (key x), value x))
        = es ++ xs.map fun x => (.str (key x), value x) := by
  induction xs with
  | nil => exact fun _ _ => (List.append_nil _).symm
  | cons x xs ih =>
      intro es hnodup hnew
      obtain ⟨hx, hxs⟩ := List.nodup_cons.1 hnodup
      obtain ⟨hxnew, hxsnew⟩ := List.forall_mem_cons.1 hnew
      have hrest : ∀ y ∈ xs, ∀ e ∈ es ++ [(.str (key x), value x)], e.1 ≠ .str (key y) := by
        intro y hy
        refine List.forall_mem_append.2 ⟨hxsnew y hy, List.forall_mem_singleton.2 fun heq => ?_⟩
        have hkeys : key x = key y := Value.str.inj heq
        exact hx (hkeys ▸ List.mem_map_of_mem hy)
      rw [List.map_cons, update, List.foldl_cons, insert_of_not_mem hxnew, ← update,
        ih hxs hrest, List.append_assoc, List.singleton_append]

end Entries

/-! ## Scopes that agree -/

namespace Scope

/-- The scopes give the same to each of the names; a name without a value counts as one for
    nothing. -/
def AgreeOn (names : String → Prop) (s t : Scope) : Prop :=
  ∀ name, names name → (s.entries.field? name).getD .null = (t.entries.field? name).getD .null

variable {names : String → Prop} {s t : Scope}

/-- Scopes that agree still do when the same texts are bound in both. -/
theorem AgreeOn.child (fields : List (String × Value)) : ∀ {s t : Scope}, AgreeOn names s t →
    AgreeOn names (s.child (.ofFields fields)) (t.child (.ofFields fields)) := by
  induction fields with
  | nil => exact fun h => h
  | cons field fields ih =>
      intro s t h
      refine @ih ⟨s.entries.insert (.str field.1) field.2⟩ ⟨t.entries.insert (.str field.1) field.2⟩
        fun name hname => ?_
      rw [Entries.field?_insert, Entries.field?_insert]
      by_cases hn : name = field.1
      · rw [if_pos hn, if_pos hn]
      · rw [if_neg hn, if_neg hn]
        exact h name hname

/-- Scopes that agree still do at the items of a loop. -/
theorem AgreeOn.atItem (h : AgreeOn names s t) (item : Value) (i n : Nat) :
    AgreeOn names (s.atItem item i n) (t.atItem item i n) :=
  h.child _

/-- The scopes of two pages of one engine agree where their data do. -/
theorem AgreeOn.root {α β : Type} {data data' : Entries} (h : AgreeOn names ⟨data⟩ ⟨data'⟩)
    (helpers : Registry α) (components : Registry β) (options : Entries) :
    AgreeOn names (.root data helpers components options)
      (.root data' helpers components options) :=
  h.child _

end Scope

/-! ## Paths and arguments -/

/-- The first piece of a text is what stands before the first separator. -/
theorem splitOn_eq_cons (separator : Char) (cs : List Char) :
    ∃ rest, splitOn separator cs = cs.takeWhile (· ≠ separator) :: rest := by
  induction cs with
  | nil => exact ⟨[], rfl⟩
  | cons c cs ih =>
      obtain ⟨rest, h⟩ := ih
      by_cases hc : c = separator
      · refine ⟨splitOn separator cs, ?_⟩
        rw [splitOn, if_pos hc, List.takeWhile_cons_of_neg (by simpa using hc)]
      · refine ⟨rest, ?_⟩
        rw [splitOn, if_neg hc, h, List.takeWhile_cons_of_pos (by simpa using hc)]

/-- A text without separators is one piece. -/
theorem splitOn_of_not_mem {separator : Char} {cs : List Char} (h : separator ∉ cs) :
    splitOn separator cs = [cs] := by
  rw [splitOn_eq, List.splitOn_eq_singleton h]

/-- What a path finds depends on its first segment only. -/
theorem Path.resolve_eq_of_agreeOn [Attributes] {names : String → Prop} {s t : Scope}
    (h : s.AgreeOn names t) {path : List Char} (hroot : names (Path.root path)) :
    Path.resolve path s.value = Path.resolve path t.value := by
  obtain ⟨rest, hsplit⟩ := splitOn_eq_cons '.' path
  have hstep : s.value.step (path.takeWhile (· ≠ '.')) = t.value.step (path.takeWhile (· ≠ '.')) :=
    h _ hroot
  rw [Path.resolve, Path.resolve, hsplit, List.foldl_cons, List.foldl_cons, hstep]

namespace Argument

theorem eq_of_read_path {token cs : List Char} (h : read token = .path cs) : cs = token := by
  unfold read at h
  repeat' split at h
  all_goals cases h
  rfl

theorem read_of_isPath {token : List Char} (h : isPath token = true) : read token = .path token := by
  cases hr : read token with
  | path cs => rw [eq_of_read_path hr]
  | _ => simp [isPath, hr] at h

/-- What an argument is depends on its path, if it is one. -/
theorem evaluate_eq_of_agreeOn [Attributes] {names : String → Prop} {s t : Scope}
    (h : s.AgreeOn names t)
    {token : List Char} (hroot : isPath token = true → names (Path.root token)) :
    evaluate s.value token = evaluate t.value token := by
  cases hp : isPath token with
  | false => exact value_eq_of_not_isPath hp _ _
  | true =>
      rw [evaluate, evaluate, read_of_isPath hp]
      exact Path.resolve_eq_of_agreeOn h (hroot hp)

theorem keywordValues_eq_of_agreeOn [Attributes] {names : String → Prop} {s t : Scope}
    (h : s.AgreeOn names t) {text : List Char}
    (hroot : ∀ token ∈ ((Expression.keywords text).map (·.2)).filter isPath,
      names (Path.root token)) :
    keywordValues s.value text = keywordValues t.value text := by
  rw [keywordValues, keywordValues]
  congr 1
  refine List.map_congr_left fun k hk => ?_
  have hvalue : evaluate s.value k.2 = evaluate t.value k.2 :=
    evaluate_eq_of_agreeOn h fun hp =>
      hroot k.2 (List.mem_filter.2 ⟨List.mem_map_of_mem hk, hp⟩)
  rw [hvalue]

end Argument

theorem Scope.loopItems_eq_of_agreeOn [Attributes] {names : String → Prop} {s t : Scope}
    (h : s.AgreeOn names t)
    {path : List Char} (hroot : names (Path.root path)) : s.loopItems path = t.loopItems path := by
  rw [loopItems, loopItems, Path.resolve_eq_of_agreeOn h hroot]

end Stencil
