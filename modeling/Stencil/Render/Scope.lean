import Stencil.Value.Path
import Stencil.Registry

set_option autoImplicit false

/-! # Scopes

The names that a template can use: the data of the page, the registered helpers and components, the
options of the render, and inside a loop the item and its place. Scopes never change; the body of a
loop gets a scope of its own for each item. -/

namespace Stencil

/-- The names in use, with their values. -/
structure Scope where
  entries : Entries
  deriving Repr

namespace Scope

/-! ## Reserved names -/

/-- The name of the registered helpers. -/
def helpersKey : String := "$helpers"

/-- The name of the registered components. -/
def componentsKey : String := "$components"

/-- The name of the options of a render. -/
def optionsKey : String := "$options"

/-- The names that a loop gives values to. -/
def loopNames : List String :=
  ["this", "@index", "@first", "@last", "@odd", "@even"]

/-- What the names of a loop stand for at one of its items. -/
def loopBindings (item : Value) (index length : Int) : Entries :=
  .ofFields [
    ("this", item),
    ("@index", .int index),
    ("@first", .bool (index == 0)),
    ("@last", .bool (index == length - 1)),
    ("@odd", .bool (index.emod 2 == 1)),
    ("@even", .bool (index.emod 2 == 0))]

/-! ## Looking up -/

/-- A scope as a mapping, in which paths are looked up. -/
def value (s : Scope) : Value := .map s.entries

/-- The value of a name. -/
def get? (s : Scope) (name : Value) : Option Value := s.entries.get? name

/-- The options of the render, empty if there are none. -/
def options (s : Scope) : Value :=
  match s.entries.field? optionsKey with
  | some v => if v.holds then v else .map []
  | none => .map []

/-! ## Building -/

/-- A registry as a mapping from its names. -/
def registered {α : Type} (kind : FunctionKind) (r : Registry α) : Value :=
  .map (Entries.ofFields (r.names.map fun n => (n, .function (.registered kind) n)))

/-- The scope with other bindings over its own. -/
def child (s : Scope) (bindings : Entries) : Scope :=
  ⟨s.entries.update bindings⟩

/-- The scope of a page: its data, under the registries and the options. -/
def root {α β : Type} (data : Entries) (helpers : Registry α) (components : Registry β)
    (options : Entries) : Scope :=
  child ⟨data⟩ (.ofFields [
    (helpersKey, registered .helper helpers),
    (componentsKey, registered .component components),
    (optionsKey, .map options)])

/-- The scope without any names. -/
def empty : Scope := ⟨[]⟩

/-- The scope of a loop's body at one of the items. -/
def atItem (s : Scope) (item : Value) (index length : Nat) : Scope :=
  s.child (loopBindings item index length)

end Scope

end Stencil
