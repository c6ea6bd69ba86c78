import Stencil.Text.Lines
import Stencil.Value.Attributes

set_option autoImplicit false

/-! # Paths

A path such as `meeting.location.name` is looked up segment by segment. A segment is a key of a
mapping, `length` of a text or a list, or a public attribute of anything else; a private attribute
and anything missing give nothing, and nothing has no segments.

The main statement is `Path.resolve_join`: a path is looked up by looking up its first part and then
the rest in the result. -/

namespace Stencil

variable [Attributes]

namespace Value

/-- The number of characters of a text or of items of a sequence. -/
def length? : Value → Option Nat
  | .str s => some s.length
  | .list xs => some xs.length
  | .tuple xs => some xs.length
  | _ => none

/-- What one segment of a path finds in a value. -/
def step (v : Value) (segment : List Char) : Value :=
  let name := String.ofList segment
  match v with
  | .null => .null
  | .map es => (Entries.field? es name).getD .null
  | v =>
    match (if name = "length" then v.length? else none) with
    | some n => .int n
    | none => if segment.head? = some '_' then .null else (Attributes.find? v name).getD .null

end Value

namespace Path

/-- What a path finds in a value. -/
def resolve (path : List Char) (v : Value) : Value :=
  (splitOn '.' path).foldl Value.step v

/-- Looking up two paths joined by a point is looking up the second in what the first finds. -/
theorem resolve_join (p q : List Char) (v : Value) :
    resolve (p ++ '.' :: q) v = resolve q (resolve p v) := by
  simp [resolve, splitOn_join]

/-- Nothing has no segments, however many are looked up. -/
theorem foldl_step_null (segments : List (List Char)) :
    segments.foldl Value.step .null = .null := by
  induction segments with
  | nil => rfl
  | cons s segments ih => simpa [Value.step] using ih

/-- Nothing has no segments. -/
@[simp] theorem resolve_null (path : List Char) : resolve path .null = .null :=
  foldl_step_null _

end Path

end Stencil
