set_option autoImplicit false

/-! # Registries

Named things in the order in which their names were first registered. Registering a name again
replaces what it stands for and keeps its place. -/

namespace Stencil

/-- Things under distinct names. -/
abbrev Registry (α : Type) := List (String × α)

namespace Registry

variable {α : Type}

/-- The thing under a name. -/
def get? (r : Registry α) (name : String) : Option α :=
  r.lookup name

/-- The registry with a thing under a name. -/
def insert (r : Registry α) (name : String) (a : α) : Registry α :=
  match r with
  | [] => [(name, a)]
  | (n, b) :: rest => if n = name then (n, a) :: rest else (n, b) :: insert rest name a

/-- The names, in order. -/
def names (r : Registry α) : List String :=
  r.map (·.1)

theorem mem_of_get? {r : Registry α} {name : String} {a : α}
    (h : r.get? name = some a) : (name, a) ∈ r := by
  obtain ⟨before, after, rfl, -⟩ := List.lookup_eq_some_iff.1 h
  simp

/-- A name is registered if something is found under it. -/
theorem contains_names (r : Registry α) (name : String) :
    r.names.contains name = (r.get? name).isSome := by
  induction r with
  | nil => rfl
  | cons e r ih =>
    obtain ⟨n, a⟩ := e
    simp only [get?, names] at ih
    simp only [get?, names, List.map_cons, List.contains_cons, List.lookup_cons, ih]
    cases name == n <;> rfl

/-- The registry with something else under each name. -/
def mapValues {β : Type} (r : Registry α) (g : α → β) : Registry β :=
  r.map fun e => (e.1, g e.2)

theorem names_mapValues {β : Type} (r : Registry α) (g : α → β) :
    (r.mapValues g).names = r.names := by
  rw [names, mapValues, List.map_map]
  rfl

theorem get?_mapValues {β : Type} (r : Registry α) (g : α → β) (name : String) :
    (r.mapValues g).get? name = (r.get? name).map g := by
  induction r with
  | nil => rfl
  | cons e r ih =>
    obtain ⟨n, a⟩ := e
    simp only [get?, mapValues] at ih
    simp only [get?, mapValues, List.map_cons, List.lookup_cons]
    cases name == n with
    | false => exact ih
    | true => rfl

theorem get?_insert (r : Registry α) (name other : String) (a : α) :
    (r.insert name a).get? other = if other = name then some a else r.get? other := by
  induction r with
  | nil =>
    by_cases h : other = name <;> simp [insert, get?, List.lookup_cons, h, beq_eq_false_iff_ne.2]
  | cons e r ih =>
    obtain ⟨n, b⟩ := e
    simp only [get?] at ih
    simp only [insert, get?]
    split
    · subst n
      by_cases h : other = name <;> simp [List.lookup_cons, h, beq_eq_false_iff_ne.2]
    · by_cases h : other = n
      · subst h
        simp_all
      · simp [List.lookup_cons, beq_eq_false_iff_ne.2 h, ih]

/-- Registering a known name changes no names. -/
theorem names_insert_of_mem (r : Registry α) {name : String} (a : α) (h : name ∈ r.names) :
    (r.insert name a).names = r.names := by
  induction r with
  | nil => simp [names] at h
  | cons e r ih =>
    obtain ⟨n, b⟩ := e
    simp only [insert]
    split
    · simp [names]
    · simp only [names, List.map_cons, List.mem_cons] at h ih ⊢
      rw [ih (h.resolve_left (by simpa [eq_comm] using ‹¬n = name›))]

/-- A new name comes last. -/
theorem insert_of_not_mem (r : Registry α) {name : String} (a : α) (h : name ∉ r.names) :
    r.insert name a = r ++ [(name, a)] := by
  induction r with
  | nil => rfl
  | cons e r ih =>
    obtain ⟨n, b⟩ := e
    simp only [names, List.map_cons, List.mem_cons, not_or] at h ih
    simp [insert, Ne.symm h.1, ih h.2]

/-- Registering a new name puts it at the end. -/
theorem names_insert_of_not_mem (r : Registry α) {name : String} (a : α) (h : name ∉ r.names) :
    (r.insert name a).names = r.names ++ [name] := by
  rw [insert_of_not_mem r a h, names, List.map_append]
  rfl

theorem nodup_names_insert {r : Registry α} (h : r.names.Nodup) (name : String) (a : α) :
    (r.insert name a).names.Nodup := by
  by_cases hmem : name ∈ r.names
  · rwa [names_insert_of_mem r a hmem]
  · rw [names_insert_of_not_mem r a hmem, List.nodup_append]
    refine ⟨h, by simp, fun m hm n hn => ?_⟩
    rw [List.mem_singleton.1 hn]
    rintro rfl
    exact hmem hm

/-! ## Registering in turn -/

/-- The registry with things under names, registered one after the other. -/
def insertAll (r added : Registry α) : Registry α :=
  added.foldl (fun r f => r.insert f.1 f.2) r

/-- No name is registered twice. -/
theorem nodup_names_insertAll (added : Registry α) {r : Registry α} (h : r.names.Nodup) :
    (r.insertAll added).names.Nodup := by
  induction added generalizing r with
  | nil => exact h
  | cons f added ih => exact ih (nodup_names_insert h f.1 f.2)

/-- Where all names are new and distinct, everything is kept as it is. -/
theorem insertAll_of_nodup {added : Registry α} {r : Registry α}
    (h : (r ++ added).names.Nodup) : r.insertAll added = r ++ added := by
  induction added generalizing r with
  | nil => exact (List.append_nil r).symm
  | cons f added ih =>
    have hnew : f.1 ∉ r.names := by
      rw [names, List.map_append, List.nodup_append] at h
      exact fun hmem => h.2.2 _ hmem _ List.mem_cons_self rfl
    have hstep : r.insertAll (f :: added) = (r.insert f.1 f.2).insertAll added := rfl
    rw [hstep, insert_of_not_mem r f.2 hnew]
    have hrest : (r ++ [f]) ++ added = r ++ f :: added := List.append_assoc r [f] added
    rw [← hrest] at h ⊢
    exact ih h

end Registry

/-! ## Fields -/

/-- Things under names that are all different. -/
@[ext]
structure Fields (α : Type) where
  entries : Registry α
  nodup : entries.names.Nodup

namespace Fields

variable {α : Type}

/-- Keeps the last thing under each name, in the place of the first. -/
def ofList (added : List (String × α)) : Fields α :=
  ⟨Registry.insertAll [] added, Registry.nodup_names_insertAll added .nil⟩

theorem ofList_entries (fields : Fields α) : ofList fields.entries = fields := by
  have h : ([] ++ fields.entries : Registry α).names.Nodup := fields.nodup
  exact Fields.ext (Registry.insertAll_of_nodup h)

end Fields

end Stencil
