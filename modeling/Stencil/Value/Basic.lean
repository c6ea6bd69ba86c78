import Stencil.Calendar.Basic
import Stencil.Double.Basic

set_option autoImplicit false

/-! # Values

The dynamic values that templates work on: what a page's data holds, what helpers take and give,
and what configuration files say. Mappings keep their entries in order of first insertion, and
their keys may be values of any kind.

* `Value.equal` compares numbers by what they denote, sequences item by item, and mappings whatever
  the order of their keys.
* `Entries` is a mapping's content, with `get?`, `insert` and `update`.
-/

namespace Stencil

/-- The two registries of functions that templates can reach. -/
inductive FunctionKind where
  | helper
  | component
  deriving DecidableEq, Repr

/-- What can be seen of an object of a type that has no form of its own here. -/
structure Appearance where
  typeName : String
  /-- The name of the type, after the name of the library that it comes from. -/
  qualifiedTypeName : String
  /-- What stands for the object inside other values. -/
  literal : String
  /-- Whether the object counts as present. -/
  holds : Bool
  deriving DecidableEq, Repr

/-- What an object without a form of its own is. -/
inductive ObjectKind where
  /-- A registered helper or component. -/
  | registered (kind : FunctionKind)
  /-- An object of another type, such as a method of a value. -/
  | other (a : Appearance)
  deriving DecidableEq, Repr

/-- A value. -/
inductive Value where
  | null
  | bool (b : Bool)
  | int (n : Int)
  | float (x : Double)
  | str (s : String)
  | bytes (b : List UInt8)
  | date (d : Date)
  | moment (m : Moment)
  /-- The zone of a moment. -/
  | zone (o : Offset)
  | list (items : List Value)
  | tuple (items : List Value)
  | map (entries : List (Value × Value))
  /-- An object with public attributes that is no mapping. -/
  | record (fields : List (String × Value))
  /-- A registered function by its name, or an object of another type by its text. -/
  | function (kind : ObjectKind) (name : String)
  /-- What a card sees in the place of a missing field. -/
  | undefined
  deriving Repr, Inhabited

/-- The content of a mapping. -/
abbrev Entries := List (Value × Value)

/-! ## Types -/

namespace Value

/-- The name of a value's type. -/
def typeName : Value → String
  | .null => "NoneType"
  | .bool _ => "bool"
  | .int _ => "int"
  | .float _ => "float"
  | .str _ => "str"
  | .bytes _ => "bytes"
  | .date _ => "date"
  | .moment _ => "datetime"
  | .zone _ => "timezone"
  | .list _ => "list"
  | .tuple _ => "tuple"
  | .map _ => "dict"
  | .record _ => "SimpleNamespace"
  | .function (.registered _) _ => "function"
  | .function (.other a) _ => a.typeName
  | .undefined => "ChainableUndefined"

/-- The name of a value's type, after the name of the library that it comes from. -/
def qualifiedTypeName (v : Value) : String :=
  match v with
  | .date _ => "datetime." ++ v.typeName
  | .moment _ => "datetime." ++ v.typeName
  | .zone _ => "datetime." ++ v.typeName
  | .record _ => "types." ++ v.typeName
  | .function (.other a) _ => a.qualifiedTypeName
  | _ => v.typeName

end Value

/-! ## Numbers -/

/-- A number: an integer of any size or a double. -/
inductive Number where
  | int (n : Int)
  | float (x : Double)
  deriving DecidableEq, Repr

namespace Number

/-- Where a number stands among the extended rationals. -/
def place : Number → Double.Place
  | .int n => .ratio n 1
  | .float x => x.place

/-- The order of two numbers by what they denote; not a number is ordered against nothing. -/
def compare? (a b : Number) : Option Ordering :=
  a.place.compare? b.place

/-- Whether two numbers denote the same number. -/
def same (a b : Number) : Bool :=
  a.compare? b == some .eq

end Number

namespace Value

/-- The number a value is; the truth values are the numbers one and zero. -/
def number? : Value → Option Number
  | .bool b => some (.int (if b then 1 else 0))
  | .int n => some (.int n)
  | .float x => some (.float x)
  | _ => none

/-! ## Equality -/

/-- Equality of values that hold no other values. -/
def scalarEqual (a b : Value) : Bool :=
  match a, b with
  | .null, .null => true
  | .str s, .str t => s == t
  | .bytes s, .bytes t => s == t
  | .date d, .date e => d == e
  | .moment m, .moment n => m.same n
  | .zone o, .zone p => o == p
  | .function k n, .function l m => k == l && n == m
  | .undefined, .undefined => true
  | _, _ =>
    match a.number?, b.number? with
    | some x, some y => x.same y
    | _, _ => false

mutual

/-- Whether two values are equal. -/
def equal : Value → Value → Bool
  | .list xs, .list ys => equalItems xs ys
  | .tuple xs, .tuple ys => equalItems xs ys
  | .map es, .map fs => es.length == fs.length && entriesWithin es fs
  | .record es, .record fs => es.length == fs.length && fieldsWithin es fs
  | a, b => a.scalarEqual b

/-- Whether two sequences have equal items in the same order. -/
def equalItems : List Value → List Value → Bool
  | [], [] => true
  | x :: xs, y :: ys => x.equal y && equalItems xs ys
  | _, _ => false

/-- Whether each entry is found, by an equal key and with an equal value, among others. -/
def entriesWithin : List (Value × Value) → List (Value × Value) → Bool
  | [], _ => true
  | (k, v) :: es, fs =>
    (match fs.find? fun f => k.equal f.1 with
      | some f => v.equal f.2
      | none => false) && entriesWithin es fs

/-- Whether each field is found, by its name and with an equal value, among others. -/
def fieldsWithin : List (String × Value) → List (String × Value) → Bool
  | [], _ => true
  | (k, v) :: es, fs =>
    (match fs.lookup k with
      | some w => v.equal w
      | none => false) && fieldsWithin es fs

end

/-! ## Truth -/

/-- Whether a value counts as present: not nothing, not zero, not false and not empty. -/
def holds : Value → Bool
  | .null => false
  | .bool b => b
  | .int n => n != 0
  | .float x => !x.isZero
  | .str s => !s.isEmpty
  | .bytes b => !b.isEmpty
  | .list xs => !xs.isEmpty
  | .tuple xs => !xs.isEmpty
  | .map es => !es.isEmpty
  | .undefined => false
  | .date _ => true
  | .moment _ => true
  | .zone _ => true
  | .record _ => true
  | .function (.registered _) _ => true
  | .function (.other a) _ => a.holds

/-- Whether a condition is met: as `holds`, except that an empty mapping counts. -/
def isTruthy : Value → Bool
  | .map _ => true
  | v => v.holds

/-- The items of a list or a tuple. -/
def items? : Value → Option (List Value)
  | .list xs => some xs
  | .tuple xs => some xs
  | _ => none

/-- Whether a value can be looked up in a mapping. -/
def unhashable? : Value → Option String
  | .list _ => some "list"
  | .map _ => some "dict"
  | .record _ => some "types.SimpleNamespace"
  | .tuple xs => firstUnhashable xs
  | _ => none
where
  /-- The type of the first item that cannot be looked up. -/
  firstUnhashable : List Value → Option String
    | [] => none
    | x :: xs => match unhashable? x with
      | some t => some t
      | none => firstUnhashable xs

end Value

/-! ## Entries -/

namespace Entries

/-- The value under a key. -/
def get? (es : Entries) (key : Value) : Option Value :=
  (es.find? fun e => key.equal e.1).map (·.2)

/-- The entries with a value under a key; a key that is already there keeps its place. -/
def insert (es : Entries) (key value : Value) : Entries :=
  match es with
  | [] => [(key, value)]
  | (k, v) :: rest => if key.equal k then (k, value) :: rest else (k, v) :: insert rest key value

/-- The entries with others written over them, one after the other. -/
def update (es others : Entries) : Entries :=
  others.foldl (fun es e => es.insert e.1 e.2) es

/-- Entries under texts as keys. -/
def ofFields (fields : List (String × Value)) : Entries :=
  fields.map fun f => (.str f.1, f.2)

/-- The value under a text. -/
def field? (es : Entries) (name : String) : Option Value :=
  es.get? (.str name)

end Entries

end Stencil
