import Stencil.Expression.Argument
import Stencil.Render.Scope
import Stencil.Template.Node

set_option autoImplicit false

/-! # Variables of a template

The names of the data that a template looks up: the first segments of the paths in its tags, without
the names that loops and the engine give values to. -/

namespace Stencil

/-! ## Texts in order -/

/-- The texts, each once, in ascending order of their characters. -/
def sortedDistinct (xs : List String) : List String :=
  xs.eraseDups.mergeSort fun a b => a ≤ b

/-- What is left without duplicates has none. -/
theorem nodup_eraseDups {α : Type} [BEq α] [LawfulBEq α] : ∀ xs : List α, xs.eraseDups.Nodup
  | [] => List.nodup_nil
  | x :: xs => by
      rw [List.eraseDups_cons, List.nodup_cons, List.mem_eraseDups, List.mem_filter]
      refine ⟨fun h => ?_, nodup_eraseDups _⟩
      simp at h
  termination_by xs => xs.length
  decreasing_by exact Nat.lt_succ_of_le (List.length_filter_le _ _)

/-- Without duplicates nothing is left out. -/
theorem eraseDups_of_nodup {α : Type} [BEq α] [LawfulBEq α] {xs : List α} (h : xs.Nodup) :
    xs.eraseDups = xs := by
  induction xs with
  | nil => rfl
  | cons x xs ih =>
      obtain ⟨hx, hxs⟩ := List.nodup_cons.1 h
      have hfilter : xs.filter (fun y => !y == x) = xs := by
        rw [List.filter_eq_self]
        intro y hy
        have hne : y ≠ x := fun heq => hx (heq ▸ hy)
        simp [hne]
      rw [List.eraseDups_cons, hfilter, ih hxs]

theorem mem_sortedDistinct {x : String} {xs : List String} : x ∈ sortedDistinct xs ↔ x ∈ xs := by
  rw [sortedDistinct, List.mem_mergeSort, List.mem_eraseDups]

theorem pairwise_sortedDistinct (xs : List String) : (sortedDistinct xs).Pairwise (· < ·) := by
  have hnodup : (sortedDistinct xs).Nodup :=
    (List.mergeSort_perm _ _).nodup_iff.2 (nodup_eraseDups xs)
  have hsorted : (sortedDistinct xs).Pairwise fun a b => decide (a ≤ b) = true :=
    List.pairwise_mergeSort (fun a b c => by simpa using String.le_trans)
      (fun a b => by simpa using String.le_total a b) _
  refine hnodup.imp₂ ?_ hsorted
  intro a b hne hle
  exact Std.lt_of_le_of_ne (of_decide_eq_true hle) hne

/-- Texts in ascending order stay as they are. -/
theorem sortedDistinct_eq_self {xs : List String} (h : xs.Pairwise (· < ·)) :
    sortedDistinct xs = xs := by
  have hnodup : xs.Nodup := h.imp fun hlt => String.ne_of_lt hlt
  have hsorted : xs.Pairwise fun a b => decide (a ≤ b) = true :=
    h.imp fun hlt => decide_eq_true (Std.le_of_lt hlt)
  rw [sortedDistinct, eraseDups_of_nodup hnodup, List.mergeSort_of_pairwise hsorted]

/-! ## Paths in tags -/

namespace Node

/-- The paths that the tag of a node looks up. -/
def paths : Node → List (List Char)
  | .text _ => []
  | .variable e _ => (Expression.read e.toList).paths
  | .component _ arguments _ =>
    (Expression.keywords arguments.toList).map (·.2) |>.filter Argument.isPath
  | .block .conditional subject _ _ => (Expression.read subject.toList).paths
  | .block .loop subject _ _ => [subject.toList]

end Node

/-- The first segment of a path. -/
def Path.root (path : List Char) : String :=
  String.ofList (path.takeWhile (· ≠ '.'))

namespace Template

/-- Whether a name is one for data: not empty, not bound by loops, and not reserved. -/
def isDataName (name : String) : Bool :=
  !name.isEmpty && !Scope.loopNames.contains name && name.toList.head? != some '$'

/-- The names of the data that a template looks up, in ascending order. -/
def dataNames (nodes : Template) : List String :=
  sortedDistinct (((walk nodes).flatMap Node.paths).map Path.root |>.filter isDataName)

end Template

end Stencil
