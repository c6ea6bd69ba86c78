import Mathlib.Data.List.Perm.Basic
import Stencil.Render.Notice

set_option autoImplicit false

/-! # Computations that agree up to the order of what they tell

`Telling.Agrees` relates computations that give the same value and tell the same notices, where only
the order of the notices may differ. It is an equivalence, every step of a computation may be
replaced by one that agrees with it (`Agrees.bind`), and two steps that do not need each other may
change places (`agrees_swap`). -/

namespace Stencil.Telling

variable {ε α β γ : Type}

/-! ## Agreement -/

/-- Both computations give the same values or fail, and when they give a value they tell the same,
    each notice as often, in whatever order. -/
structure Agrees (a b : Telling ε α) : Prop where
  gives : ∀ x, a.outcome = .ok x ↔ b.outcome = .ok x
  tells : ∀ x, a.outcome = .ok x → a.log.Perm b.log

theorem Agrees.refl (a : Telling ε α) : Agrees a a :=
  ⟨fun _ => Iff.rfl, fun _ _ => .refl _⟩

theorem Agrees.of_eq {a b : Telling ε α} (h : a = b) : Agrees a b :=
  h ▸ Agrees.refl a

theorem Agrees.trans {a b c : Telling ε α} (hab : Agrees a b) (hbc : Agrees b c) : Agrees a c :=
  ⟨fun x => (hab.gives x).trans (hbc.gives x),
    fun x hx => (hab.tells x hx).trans (hbc.tells x ((hab.gives x).1 hx))⟩

/-! ## What a computation in steps gives and tells -/

theorem bind_outcome_ok {t : Telling ε α} {next : α → Telling ε β} {y : β} :
    (t >>= next).outcome = .ok y ↔ ∃ x, t.outcome = .ok x ∧ (next x).outcome = .ok y := by
  rcases t with ⟨log, f | a⟩
  · simp
  · simp

theorem bind_log_of_ok {t : Telling ε α} {x : α} (h : t.outcome = .ok x)
    (next : α → Telling ε β) : (t >>= next).log = t.log ++ (next x).log := by
  obtain ⟨log, outcome⟩ := t
  cases h
  rfl

/-- What a computation goes on with matters only for values that it gives. -/
theorem bind_congr_of_ok {t : Telling ε α} {f g : α → Telling ε β}
    (h : ∀ x, t.outcome = .ok x → f x = g x) : t >>= f = t >>= g := by
  rcases t with ⟨log, e | x⟩
  · rfl
  · rw [ok_bind, ok_bind, h x rfl]

/-! ## Replacing and reordering steps -/

theorem Agrees.bind {a b : Telling ε α} {f g : α → Telling ε β} (h : Agrees a b)
    (hfg : ∀ x, Agrees (f x) (g x)) : Agrees (a >>= f) (b >>= g) := by
  refine ⟨fun y => ?_, fun y hy => ?_⟩
  · rw [bind_outcome_ok, bind_outcome_ok]
    exact exists_congr fun x => and_congr (h.gives x) ((hfg x).gives y)
  · obtain ⟨x, hx, hfx⟩ := bind_outcome_ok.1 hy
    rw [bind_log_of_ok hx, bind_log_of_ok ((h.gives x).1 hx)]
    exact (h.tells x hx).append ((hfg x).tells y hfx)

/-- A later step may be replaced alone. -/
theorem Agrees.bind_right (a : Telling ε α) {f g : α → Telling ε β} (h : ∀ x, Agrees (f x) (g x)) :
    Agrees (a >>= f) (a >>= g) :=
  (Agrees.refl a).bind h

/-- Two steps may change places when neither needs what the other gives. -/
theorem agrees_swap (a : Telling ε α) (b : Telling ε β) (next : α → β → Telling ε γ) :
    Agrees (do let x ← a; let y ← b; next x y) (do let y ← b; let x ← a; next x y) := by
  refine ⟨fun z => ?_, fun z hz => ?_⟩
  · simp only [bind_outcome_ok]
    constructor
    · rintro ⟨x, hx, y, hy, hz⟩
      exact ⟨y, hy, x, hx, hz⟩
    · rintro ⟨y, hy, x, hx, hz⟩
      exact ⟨x, hx, y, hy, hz⟩
  · obtain ⟨x, hx, hz⟩ := bind_outcome_ok.1 hz
    obtain ⟨y, hy, -⟩ := bind_outcome_ok.1 hz
    rw [bind_log_of_ok hx, bind_log_of_ok hy, bind_log_of_ok hy, bind_log_of_ok hx,
      ← List.append_assoc, ← List.append_assoc]
    exact List.perm_append_comm.append_right _

/-! ## Effects -/

/-- What a computation tells and how it fails, without the value that it gives. -/
def effect (t : Telling ε α) : Telling ε Unit := do
  let _ ← t
  return ()

theorem effect_bind {next : α → Telling ε β} {rest : Telling ε Unit} (t : Telling ε α)
    (h : ∀ x, (next x).effect = rest) : (t >>= next).effect = t.effect >>= fun _ => rest := by
  simp only [effect, bind_assoc, pure_bind] at h ⊢
  exact bind_congr h

theorem effect_pure (x : α) : (pure x : Telling ε α).effect = pure () := rfl

theorem effect_map (t : Telling ε α) (f : α → β) : (f <$> t).effect = t.effect := by
  simp only [effect, bind_map_left]

theorem effect_mapM_cons (t : α → Telling ε β) (x : α) (xs : List α) :
    ((x :: xs).mapM t).effect = (t x).effect >>= fun _ => (xs.mapM t).effect := by
  rw [List.mapM_cons]
  refine effect_bind _ fun y => ?_
  rw [← map_eq_pure_bind, effect_map]

theorem effect_mapM_append (t : α → Telling ε β) (xs ys : List α) :
    ((xs ++ ys).mapM t).effect = (xs.mapM t).effect >>= fun _ => (ys.mapM t).effect := by
  rw [List.mapM_append]
  refine effect_bind _ fun zs => ?_
  rw [← map_eq_pure_bind, effect_map]

end Stencil.Telling
