import Stencil.Helper.Builtins
import Stencil.Html.Escape

set_option autoImplicit false

/-! # Cards

A card is a component that shows one record: fixed markup with terms that are printed, parts that
are shown under a condition, and parts that are repeated for each item of a field. Every printed
term is escaped, so only the fixed markup of a card puts tags into a page.

Fields that a record does not have are undefined: they print nothing, have no items, and so have
their own fields. -/

namespace Stencil

namespace Value

/-- The items of a value that can be gone through. -/
def iterate : Value → Outcome (List Value)
  | .list xs => .ok xs
  | .tuple xs => .ok xs
  | .map es => .ok (es.map (·.1))
  | .str s => .ok (s.toList.map fun c => .str (String.singleton c))
  | .bytes b => .ok (b.map fun c => .int c.toNat)
  | .undefined => .ok []
  | v => .error (.notIterable v.qualifiedTypeName)

end Value

variable [Attributes]

namespace Card

/-! ## Terms -/

/-- What turns the value of a term into another one. -/
inductive Filter where
  /-- A helper of the library, or what is registered in its place. -/
  | helper (b : Builtin) (arguments : List Value)
  /-- The first place of one character is taken by another. -/
  | replaceFirst (old new : Char)
  /-- The items, with a separator between them. -/
  | join (separator : String)

/-- A term that a card prints or decides by. -/
inductive Term where
  /-- A field of the record, by the names that lead to it. -/
  | field (path : List String)
  /-- The item of the innermost repeated part. -/
  | item
  | text (s : String)
  /-- The first term, unless it is absent. -/
  | orElse (a b : Term)
  | filtered (t : Term) (f : Filter)

/-- What terms are evaluated with. -/
structure Slots where
  helpers : Registry Helper
  scope : Scope
  record : Value
  item : Value

/-- The characters with the first `old` among them replaced. -/
def replaceFirst (old new : Char) : List Char → List Char
  | [] => []
  | c :: cs => if c = old then new :: cs else c :: replaceFirst old new cs

/-- What a filter makes of a value. A helper is looked up at every use. -/
def Filter.apply (helpers : Registry Helper) (scope : Scope) (v : Value) : Filter → Outcome Value
  | .helper b arguments =>
    ((helpers.get? b.name).getD b.helper) (v :: arguments) scope
  | .replaceFirst old new => do
    let s ← v.print
    return .str (String.ofList (Card.replaceFirst old new s.toList))
  | .join separator => do
    let items ← v.iterate
    let texts ← items.mapM Value.print
    return .str (separator.intercalate texts)

/-- The value of a term. -/
def Term.evaluate (s : Slots) : Term → Outcome Value
  | .field path => .ok (path.foldl Attributes.field s.record)
  | .item => .ok s.item
  | .text t => .ok (.str t)
  | .orElse a b => do
    let v ← a.evaluate s
    if v.holds then return v else b.evaluate s
  | .filtered t f => do
    let v ← t.evaluate s
    f.apply s.helpers s.scope v

/-- The text that a value leaves in a card. -/
def printed (v : Value) : Outcome String := do
  let s ← v.print
  return Html.escape s

/-! ## Parts -/

/-- A part of a card. -/
inductive Part where
  /-- Fixed markup. -/
  | markup (s : String)
  | print (t : Term)
  /-- Parts that are shown if a term is present. -/
  | when (t : Term) (parts : List Part)
  /-- Parts that are repeated for each item of a term. -/
  | forEach (t : Term) (parts : List Part)

/-- The texts of some items, one after the other. -/
def concatItems (text : Value → Outcome String) : List Value → Outcome String
  | [] => .ok ""
  | x :: xs => do
    let s ← text x
    let rest ← concatItems text xs
    return s ++ rest

mutual

/-- The text of a part. -/
def renderPart (s : Slots) : Part → Outcome String
  | .markup t => .ok t
  | .print t => do
    let v ← t.evaluate s
    printed v
  | .when t parts => do
    let v ← t.evaluate s
    if v.holds then renderParts s parts else return ""
  | .forEach t parts => do
    let v ← t.evaluate s
    let items ← v.iterate
    concatItems (fun x => renderParts { s with item := x } parts) items

/-- The texts of parts, one after the other. -/
def renderParts (s : Slots) : List Part → Outcome String
  | [] => .ok ""
  | p :: ps => do
    let t ← renderPart s p
    let rest ← renderParts s ps
    return t ++ rest

end

end Card

/-- A component that shows one record. -/
structure Card where
  /-- The name of the component. -/
  name : String
  /-- The keyword argument with the record. -/
  argument : String
  parts : List Card.Part

namespace Card

/-- The card as a component; without a record it shows nothing. -/
def component (c : Card) : Component := fun helpers arguments scope => do
  match arguments.field? c.argument with
  | none => return .str ""
  | some record =>
    if record.holds then
      let text ← renderParts ⟨helpers, scope, record, .undefined⟩ c.parts
      return .str text
    else return .str ""

end Card

end Stencil
