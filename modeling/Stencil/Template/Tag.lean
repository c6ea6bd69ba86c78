import Stencil.Text.Blank
import Stencil.Text.Word

set_option autoImplicit false

/-! # Tags

What the body of a tag says: it opens or closes a block, calls a component, or stands for the value
of an expression. Blanks around the parts of a tag have no meaning. -/

namespace Stencil

/-- The two kinds of block. -/
inductive BlockKind where
  /-- A body that is rendered if a condition is met. -/
  | conditional
  /-- A body that is rendered for each item of a list. -/
  | loop
  deriving DecidableEq, Repr

/-- The word that names a kind of block in its tags. -/
def BlockKind.word : BlockKind → List Char
  | .conditional => ['i', 'f']
  | .loop => ['e', 'a', 'c', 'h']

/-- A tag. -/
inductive Tag where
  | opening (kind : BlockKind) (subject : List Char)
  | closing (kind : BlockKind)
  | component (name arguments : List Char)
  | variable (expression : List Char)
  deriving DecidableEq, Repr

namespace Tag

/-- The word before the name of a component. -/
def componentMark : List Char :=
  ['c', 'o', 'm', 'p', 'o', 'n', 'e', 'n', 't', ':']

/-- The subject of a block that a trimmed body opens: the word of the block, a blank, the
    subject. -/
def subject? (kind : BlockKind) (body : List Char) : Option (List Char) :=
  match ('#' :: kind.word).isPrefixOf? body with
  | some (c :: cs) => if Text.isBlank c then some (Text.trim cs) else none
  | _ => none

/-- The name and the arguments of a component that a trimmed body calls. The name is the longest run
    of word characters. -/
def call? (body : List Char) : Option (List Char × List Char) :=
  match componentMark.isPrefixOf? body with
  | some cs =>
    match cs.takeWhile Text.isWord with
    | [] => none
    | name => some (name, Text.trim (cs.dropWhile Text.isWord))
  | none => none

/-- What a trimmed body says. -/
def ofTrimmed (body : List Char) : Tag :=
  match subject? .conditional body, subject? .loop body with
  | some s, _ => .opening .conditional s
  | none, some s => .opening .loop s
  | none, none =>
    if body = '/' :: BlockKind.conditional.word then .closing .conditional
    else if body = '/' :: BlockKind.loop.word then .closing .loop
    else
      match call? body with
      | some (name, arguments) => .component name arguments
      | none => .variable body

/-- What the body of a tag says. -/
def read (body : List Char) : Tag :=
  ofTrimmed (Text.trim body)

example : read " #if  a b ".toList = .opening .conditional "a b".toList := by decide +kernel

example : read "#if".toList = .variable "#if".toList ∧ read "/each".toList = .closing .loop := by
  decide +kernel

example : read "component:my-card a=1".toList =
    .component "my".toList "-card a=1".toList := by decide +kernel

end Tag

end Stencil
