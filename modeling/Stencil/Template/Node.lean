import Stencil.Template.Tag

set_option autoImplicit false

/-! # Template trees

A template is a list of nodes; a block holds the template of its body. Nodes that come from a tag
know the line that the tag starts on.

* `Template.walk` lists the nodes of a tree, each before those of its body.
* `Template.depth` is the height of the deepest block.
* `Template.printed` writes a tree as a template again. -/

namespace Stencil

/-- A node of a template. -/
inductive Node where
  | text (s : String)
  | variable (expression : String) (line : Nat)
  | component (name arguments : String) (line : Nat)
  | block (kind : BlockKind) (subject : String) (line : Nat) (body : List Node)
  deriving Repr, Inhabited, BEq

/-- A template. -/
abbrev Template := List Node

namespace Node

/-- The text of a node, if it is text. -/
def text? : Node → Option String
  | .text s => some s
  | _ => none

end Node

namespace Template

/-! ## Building -/

/-- The template with a node at its end. Text grows the text before it. -/
def add : Template → Node → Template
  | [], n => [n]
  | [.text s], .text t => [.text (s ++ t)]
  | m :: ms, n => m :: add ms n

/-- The template with all nodes of another at its end. -/
def join (nodes others : Template) : Template :=
  others.foldl add nodes

/-- A node that is no text stands for itself. -/
theorem add_eq_append {n : Node} (h : n.text? = none) (nodes : Template) :
    add nodes n = nodes ++ [n] := by
  fun_induction add nodes n with
  | case1 n => rfl
  | case2 s t => cases h
  | case3 m ms n _ ih => rw [ih h, List.cons_append]

theorem add_ne_nil (nodes : Template) (n : Node) : add nodes n ≠ [] := by
  fun_cases add nodes n <;> simp

theorem add_cons {nodes : Template} (h : nodes ≠ []) (m n : Node) :
    add (m :: nodes) n = m :: add nodes n := by
  rw [add]
  intros
  contradiction

/-- Two texts that are added are one text. -/
theorem add_add_text (nodes : Template) (s t : String) :
    add (add nodes (.text s)) (.text t) = add nodes (.text (s ++ t)) := by
  induction nodes with
  | nil => rfl
  | cons m ms ih =>
      by_cases hms : ms = []
      · subst hms
        cases m with
        | text u => simp only [add, String.append_assoc]
        | _ => rfl
      · rw [add_cons hms, add_cons (add_ne_nil ms _), ih, add_cons hms]

/-- Adding a node before or after joining makes no difference. -/
theorem join_add (nodes others : Template) (n : Node) :
    join nodes (add others n) = add (join nodes others) n := by
  fun_induction add others n generalizing nodes with
  | case1 n => rfl
  | case2 s t => exact (add_add_text nodes s t).symm
  | case3 m ms n _ ih => exact ih (add nodes m)

/-! ## Going through -/

mutual

/-- A node and the nodes in it, in order of their tags. -/
def walkNode : Node → List Node
  | .block k s l body => .block k s l body :: walk body
  | n => [n]

/-- The nodes of a template, in order of their tags. -/
def walk : List Node → List Node
  | [] => []
  | n :: ns => walkNode n ++ walk ns

end

mutual

/-- The number of blocks inside each other in a node. -/
def depthNode : Node → Nat
  | .block _ _ _ body => depth body + 1
  | _ => 0

/-- The number of blocks inside each other where it is greatest. -/
def depth : List Node → Nat
  | [] => 0
  | n :: ns => max (depthNode n) (depth ns)

end

/-! ## Printing -/

/-- A tag around a body. -/
def printedTag (body : List Char) : List Char :=
  ['{', '{', ' '] ++ body ++ [' ', '}', '}']

mutual

/-- A node as it could stand in a template. -/
def printedNode : Node → List Char
  | .text s => s.toList
  | .variable e _ => printedTag e.toList
  | .component name arguments _ =>
    printedTag (Tag.componentMark ++ name.toList ++ ' ' :: arguments.toList)
  | .block kind subject _ body =>
    printedTag ('#' :: kind.word ++ ' ' :: subject.toList) ++ printed body ++
      printedTag ('/' :: kind.word)

/-- A template as text. -/
def printed : List Node → List Char
  | [] => []
  | n :: ns => printedNode n ++ printed ns

end

/-- A node is among the nodes that are gone through from it. -/
theorem mem_walkNode_self (n : Node) : n ∈ walkNode n := by
  cases n <;> simp [walkNode]

/-- What holds of a block and the nodes in it holds of the nodes of its body. -/
theorem forall_mem_body {p : Node → Prop} {kind : BlockKind} {subject : String} {line : Nat}
    {body : Template} (h : ∀ n ∈ walkNode (.block kind subject line body), p n) :
    ∀ n ∈ walk body, p n := by
  rw [walkNode] at h
  exact (List.forall_mem_cons.1 h).2

@[simp] theorem walk_append (a b : Template) : walk (a ++ b) = walk a ++ walk b := by
  induction a with
  | nil => rfl
  | cons n a ih => simp [walk, ih]

end Template

end Stencil
