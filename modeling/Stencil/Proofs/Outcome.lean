import Mathlib.Data.List.Induction

set_option autoImplicit false

/-! # Steps that can fail

One step after another gives something if both do (`bind_eq_ok`), and the same step for each of some
things if it does for each (`mapM_eq_ok_iff_map`). What each step keeps, a run of them keeps
(`foldlM_invariant`). -/

namespace Stencil

theorem bind_eq_ok {ε α β : Type} {x : Except ε α} {next : α → Except ε β} {b : β} :
    x >>= next = .ok b ↔ ∃ a, x = .ok a ∧ next a = .ok b := by
  cases x with
  | error e =>
      constructor
      · intro h
        cases h
      · rintro ⟨a, ha, -⟩
        cases ha
  | ok a =>
      constructor
      · exact fun h => ⟨a, rfl, h⟩
      · rintro ⟨a', ha, h⟩
        cases ha
        exact h

theorem bind_pure_eq_ok {ε α β : Type} {x : Except ε α} {g : α → β} {b : β} :
    (x >>= fun a => pure (g a)) = .ok b ↔ ∃ a, x = .ok a ∧ b = g a := by
  rw [bind_eq_ok]
  refine exists_congr fun a => and_congr_right' ⟨fun h => ?_, fun h => congrArg Except.ok h.symm⟩
  cases h
  rfl

theorem bind_eq_error {ε α β : Type} {x : Except ε α} {next : α → Except ε β} {e : ε} :
    x >>= next = .error e ↔ x = .error e ∨ ∃ a, x = .ok a ∧ next a = .error e := by
  cases x with
  | error e' =>
      constructor
      · intro h
        cases h
        exact Or.inl rfl
      · rintro (h | ⟨a, ha, -⟩)
        · cases h
          rfl
        · cases ha
  | ok a =>
      constructor
      · exact fun h => Or.inr ⟨a, rfl, h⟩
      · rintro (h | ⟨a', ha, h⟩)
        · cases h
        · cases ha
          exact h

/-- What holds at the start of a run and is kept by each step that gives something holds at the end,
    where it may depend on the things that have been gone through. -/
theorem foldlM_invariant {ε α σ : Type} {f : σ → α → Except ε σ} {I : List α → σ → Prop}
    {xs : List α} {s t : σ}
    (hstep : ∀ seen s x t, x ∈ xs → I seen s → f s x = .ok t → I (seen ++ [x]) t)
    (hs : I [] s) (ht : xs.foldlM f s = .ok t) : I xs t := by
  induction xs using List.reverseRecOn generalizing t with
  | nil =>
      cases ht
      exact hs
  | append_singleton xs x ih =>
      rw [List.foldlM_append] at ht
      obtain ⟨mid, hmid, ht⟩ := bind_eq_ok.1 ht
      rw [List.foldlM_cons] at ht
      obtain ⟨last, hlast, ht⟩ := bind_eq_ok.1 ht
      cases ht
      have hmem : ∀ y ∈ xs, y ∈ xs ++ [x] := fun y hy => List.mem_append_left _ hy
      refine hstep xs mid x t (by simp) ?_ hlast
      exact ih (fun seen s y t hy => hstep seen s y t (hmem y hy)) hmid

theorem exists_eq_ok_of_isOk {ε α : Type} {x : Except ε α} (h : x.isOk = true) :
    ∃ a, x = .ok a := by
  cases x with
  | error e => cases h
  | ok a => exact ⟨a, rfl⟩

theorem toOption_eq_some_iff {ε α : Type} {x : Except ε α} {a : α} :
    x.toOption = some a ↔ x = .ok a := by
  cases x <;> simp [Except.toOption]

theorem exists_eq_error_iff {ε α : Type} {x : Except ε α} :
    (∃ e, x = .error e) ↔ ¬ ∃ a, x = .ok a := by
  cases x <;> simp

variable {ε α β : Type} {f : α → Except ε β} {xs : List α}

/-- What is made of the result of a step that gives `a` if `p`, and else nothing. -/
theorem map_eq_ok_iff {x : Except ε α} {p : Prop} {a : α} (h : ∀ y, x = .ok y ↔ p ∧ y = a)
    (g : α → β) {b : β} : g <$> x = .ok b ↔ p ∧ b = g a := by
  rw [map_eq_pure_bind, bind_eq_ok]
  constructor
  · rintro ⟨y, hy, hb⟩
    obtain ⟨hp, rfl⟩ := (h y).1 hy
    cases hb
    exact ⟨hp, rfl⟩
  · rintro ⟨hp, rfl⟩
    exact ⟨a, (h a).2 ⟨hp, rfl⟩, rfl⟩

/-- A step that gives `g x` for the things `x` with `p`, and else nothing, gives something for all
    of them just if all are such. -/
theorem mapM_eq_ok_iff_map {g : α → β} {p : α → Prop}
    (h : ∀ x ∈ xs, ∀ y, f x = .ok y ↔ p x ∧ y = g x) {ys : List β} :
    xs.mapM f = .ok ys ↔ (∀ x ∈ xs, p x) ∧ ys = xs.map g := by
  induction xs generalizing ys with
  | nil => simp [pure, Except.pure, eq_comm]
  | cons x xs ih =>
      obtain ⟨hx, hxs⟩ := List.forall_mem_cons.1 h
      rw [List.mapM_cons, List.forall_mem_cons, List.map_cons, bind_eq_ok]
      constructor
      · rintro ⟨y, hy, hrest⟩
        obtain ⟨zs, hzs, hys⟩ := bind_eq_ok.1 hrest
        obtain ⟨hp, rfl⟩ := (hx y).1 hy
        obtain ⟨hps, rfl⟩ := (ih hxs).1 hzs
        cases hys
        exact ⟨⟨hp, hps⟩, rfl⟩
      · rintro ⟨⟨hp, hps⟩, rfl⟩
        exact ⟨g x, (hx _).2 ⟨hp, rfl⟩, bind_eq_ok.2 ⟨_, (ih hxs).2 ⟨hps, rfl⟩, rfl⟩⟩

theorem mapM_congr_of_mem {g : α → Except ε β} (h : ∀ x ∈ xs, f x = g x) :
    xs.mapM f = xs.mapM g := by
  induction xs with
  | nil => rfl
  | cons x xs ih =>
      obtain ⟨hx, hxs⟩ := List.forall_mem_cons.1 h
      rw [List.mapM_cons, List.mapM_cons, hx, ih hxs]

end Stencil
