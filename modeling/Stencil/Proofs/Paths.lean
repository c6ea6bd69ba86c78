import Stencil.Proofs.Scoping

set_option autoImplicit false

/-! # Paths in parts

A path may be cut at any of its points: it finds what its rest finds in what its start finds. So a
path that has come to nothing, or to a private attribute, finds nothing however it goes on, and
inside a loop the paths that start with `this` are the paths of the item. -/

namespace Stencil

/-- Whether a value is a mapping, in which every segment of a path is a key. -/
def Value.isMapping : Value → Bool
  | .map _ => true
  | _ => false

variable [Attributes]

/-- A private attribute of what is no mapping is not given away. -/
theorem Value.step_private {v : Value} (h : v.isMapping = false) (name : List Char) :
    v.step ('_' :: name) = .null := by
  have hlength : String.ofList ('_' :: name) ≠ "length" := by
    intro heq
    have hchars := congrArg String.toList heq
    simp at hchars
  cases v with
  | map es => cases h
  | _ => simp only [step, if_neg hlength, List.head?_cons, if_true]

namespace Path

/-- A path without points is one segment. -/
theorem resolve_segment {p : List Char} (h : '.' ∉ p) (v : Value) : resolve p v = v.step p := by
  rw [resolve, splitOn_of_not_mem h]
  rfl

/-- A path that starts with a private attribute of what is no mapping finds nothing. -/
theorem resolve_private {v : Value} (h : v.isMapping = false) (rest : List Char) :
    resolve ('_' :: rest) v = .null := by
  obtain ⟨segments, hsegments⟩ := splitOn_eq_cons '.' ('_' :: rest)
  rw [List.takeWhile_cons_of_pos (by decide)] at hsegments
  rw [resolve, hsegments, List.foldl_cons, Value.step_private h, foldl_step_null]

/-- In the body of a loop, `this` is the item. -/
theorem resolve_this (s : Scope) (item : Value) (i n : Nat) :
    resolve "this".toList (s.atItem item i n).value = item := by
  have hitem : (s.atItem item i n).get? (.str "this") = some item :=
    Scope.get?_atItem_loopName (by decide) item i n
  show ((s.atItem item i n).get? (.str "this")).getD .null = item
  rw [hitem]
  rfl

/-- **A path is looked up in parts.** A path without points is one step. Wherever a path is cut at
    a point, it finds what its rest finds in what its start finds, whatever value it starts from. So
    it finds nothing once its start has found nothing, nor once it asks for a private attribute of
    what is no mapping; and in the body of a loop a path that goes on from `this` is looked up in
    the item. -/
theorem resolve_parts (p q : List Char) (v : Value) :
    ('.' ∉ p → resolve p v = v.step p) ∧
    resolve (p ++ '.' :: q) v = resolve q (resolve p v) ∧
    (resolve p v = .null → resolve (p ++ '.' :: q) v = .null) ∧
    (v.isMapping = false → resolve ('_' :: q) v = .null) ∧
    ((resolve p v).isMapping = false → resolve (p ++ '.' :: '_' :: q) v = .null) ∧
    ∀ (s : Scope) (i n : Nat),
      resolve ("this".toList ++ '.' :: q) (s.atItem v i n).value = resolve q v := by
  refine ⟨fun h => resolve_segment h v, resolve_join p q v, ?missing,
    fun h => resolve_private h q, ?refused, ?item⟩
  case missing =>
    intro h
    rw [resolve_join, h, resolve_null]
  case refused =>
    intro h
    rw [resolve_join, resolve_private h]
  case item =>
    intro s i n
    rw [resolve_join, resolve_this]

end Path

end Stencil
