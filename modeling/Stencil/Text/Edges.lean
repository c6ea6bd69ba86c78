set_option autoImplicit false

/-! # Character sets given by their edges

A set of characters with many runs is kept as the ascending list of the code points at which
membership changes: the first edge enters the set, the second leaves it, and so on. The tables
of `Text.Word`, `Text.Printable`, `Text.Digit`, `Text.Casing` and `Text.Width` are such lists. -/

namespace Stencil.Text

/-- Whether code point `n` lies in the set with the given ascending `edges`, when the point just
    before the first edge has membership `inside`. -/
def insideFrom (n : Nat) : List Nat → Bool → Bool
  | [], inside => inside
  | edge :: edges, inside => if n < edge then inside else insideFrom n edges !inside

/-- Whether code point `n` lies in the set with the given ascending `edges`. -/
def insideEdges (edges : List Nat) (n : Nat) : Bool :=
  insideFrom n edges false

end Stencil.Text
