import Stencil.Config.Scalar
import Stencil.Registry

set_option autoImplicit false

/-! # Coercions

A field of the settings has a type, and a value of another type is taken for one of that type where
it clearly means one, as a text of digits does for a number. `Coercions` is what the settings rely
on for this. Nothing that is said about them depends on which values are taken for which, but only
on a value of the type itself being taken as it is (`Coercions.Lawful`). The instance is there for
the program that runs. -/

namespace Stencil

-- A power is the one of the numbers themselves, whatever other structure they are given.
attribute [local instance (2000)] instPowNat

/-- Why a value is refused. -/
inductive Refusal where
  /-- It is taken for no value of the type. -/
  | notTaken (code : String)
  | negative
  | unknownLevel (text : String)
  deriving DecidableEq, Repr

/-- A refused value and the place where it stands. -/
structure Complaint where
  place : List String
  refusal : Refusal
  deriving DecidableEq, Repr

/-- The complaint with its place as it is seen from further out. -/
def Complaint.within (name : String) (c : Complaint) : Complaint :=
  { c with place := name :: c.place }

/-- What is wrong with a value and the values in it: at least one thing. -/
structure Refused where
  first : Complaint
  others : List Complaint
  deriving DecidableEq, Repr

namespace Refused

/-- What is wrong with a value as a whole. -/
def whole (r : Refusal) : Refused :=
  ⟨⟨[], r⟩, []⟩

/-- All that is wrong. -/
def complaints (r : Refused) : List Complaint :=
  r.first :: r.others

/-- What is wrong, as it is seen from further out. -/
def within (name : String) (r : Refused) : Refused :=
  ⟨r.first.within name, r.others.map (Complaint.within name)⟩

theorem complaints_within (name : String) (r : Refused) :
    (r.within name).complaints = r.complaints.map (Complaint.within name) := rfl

end Refused

/-- How values are taken for values of one type. -/
abbrev Coercion (α : Type) := Value → Except Refused α

/-- The complaints about a value that is taken or refused. -/
def complaints {α : Type} : Except Refused α → List Complaint
  | .ok _ => []
  | .error r => r.complaints

/-- How values are taken in settings. -/
class Coercions where
  text : Coercion String
  truth : Coercion Bool
  integer : Coercion Int
  /-- The text of a path, or nothing. -/
  path : Coercion (Option String)
  /-- A mapping from texts to texts. -/
  texts : Coercion (Fields String)
  /-- A mapping from texts to values of any type. -/
  values : Coercion (Fields Value)

/-- A value of the type itself is taken as it is. -/
structure Coercions.Lawful [Coercions] : Prop where
  text (s : String) : Coercions.text (.str s) = .ok s
  truth (b : Bool) : Coercions.truth (.bool b) = .ok b
  integer (n : Int) : Coercions.integer (.int n) = .ok n
  nowhere : Coercions.path .null = .ok none
  path (s : String) : Coercions.path (.str s) = .ok (some s)
  texts (fields : Fields String) :
    Coercions.texts (.map (Entries.ofFields (fields.entries.mapValues .str))) = .ok fields
  values (fields : Fields Value) :
    Coercions.values (.map (Entries.ofFields fields.entries)) = .ok fields

/-! ## Values of other types -/

namespace Lax

/-- Refuses a value. -/
def refuse {α : Type} (code : String) : Except Refused α :=
  .error (.whole (.notTaken code))

/-- The text that a text is, or that bytes are unless they are none. -/
def text? : Value → Option (Option String)
  | .str s => some (some s)
  | .bytes b => some (String.fromUTF8? ⟨b.toArray⟩)
  | _ => none

/-- Takes a text. -/
def text (v : Value) : Except Refused String :=
  match text? v with
  | some (some s) => .ok s
  | some none => refuse "string_unicode"
  | none => refuse "string_type"

/-- The integers from the negative of this one up to it, without itself, are machine integers. -/
def machineLimit : Nat :=
  2 ^ (63 : Nat)

/-- The words for truth values, whatever their case. -/
def truthWord? (s : String) : Option Bool :=
  let w := String.ofList (s.toList.map Char.toLower)
  if ["0", "off", "f", "false", "n", "no"].contains w then some false
  else if ["1", "on", "t", "true", "y", "yes"].contains w then some true
  else none

/-- The truth value that an integer is. -/
def truthNumber (n : Int) : Except Refused Bool :=
  if n = 0 then .ok false else if n = 1 then .ok true else refuse "bool_parsing"

/-- Takes a truth value: itself, zero or one, or a word for one. -/
def truth (v : Value) : Except Refused Bool :=
  match v with
  | .bool b => .ok b
  | .int n =>
    if -machineLimit ≤ n && n < machineLimit then truthNumber n else refuse "bool_type"
  | .float x =>
    match x.toInt? with
    | some n => if n.natAbs < machineLimit then truthNumber n else refuse "bool_type"
    | none => refuse "bool_type"
  | v =>
    match text? v with
    | some s =>
      match s.bind truthWord? with
      | some b => .ok b
      | none => refuse "bool_parsing"
    | none => refuse "bool_type"

/-- The text of an integer without a point and the zeros after it. -/
def withoutZeros (cs : List Char) : List Char :=
  match cs.reverse.span (· == '0') with
  | (_ :: _, '.' :: rest) => rest.reverse
  | _ => cs

/-- Takes an integer that is all of a text: a sign, and ASCII digits with single underscores between
    them. -/
def integerText (cs : List Char) : Except Refused Int :=
  let (negative, ds) := Numeral.sign (withoutZeros (Scalar.trimNumber cs))
  match Scalar.withoutUnderscores? false ds with
  | none => refuse "int_parsing"
  | some ds =>
    if ds.isEmpty || !ds.all Char.isDigit then refuse "int_parsing"
    else if digitLimit < (ds.dropWhile (· == '0')).length then refuse "int_parsing_size"
    else
      let n : Int := Text.digitsValue 0 ds
      .ok (if negative then -n else n)

/-- Takes an integer: itself, a truth value, a double without a fraction, or a text of digits. -/
def integer (v : Value) : Except Refused Int :=
  match v with
  | .int n => .ok n
  | .bool b => .ok (if b then 1 else 0)
  | .float x =>
    match x.truncate?, x.toInt? with
    | none, _ => refuse "finite_number"
    | some _, none => refuse "int_from_float"
    | some _, some n => if n.natAbs < machineLimit then .ok n else refuse "int_parsing_size"
  | v =>
    match text? v with
    | some (some s) => integerText s.toList
    | some none => refuse "int_parsing"
    | none => refuse "int_type"

/-- Takes the text of a path, or nothing. -/
def path : Value → Except Refused (Option String)
  | .null => .ok none
  | .str s => .ok (some s)
  | _ => refuse "path_type"

/-! ## Mappings -/

/-- A key as it stands in the place of a complaint. -/
def keyText : Value → String
  | .str s => s
  | .bool b => if b then "1" else "0"
  | v => v.literal

/-- Takes the entries of a mapping from texts one by one, with the complaints about its keys and
    values. -/
def entries {α : Type} (take : Coercion α) : Entries → List (String × α) × List Complaint
  | [] => ([], [])
  | (k, v) :: es =>
    let (fs, cs) := entries take es
    match text k, take v with
    | .ok name, .ok a => ((name, a) :: fs, cs)
    | name, a =>
      let here := (complaints name).map (.within "[key]") ++ complaints a
      (fs, here.map (.within (keyText k)) ++ cs)

/-- Takes a mapping from texts. -/
def mapping {α : Type} (take : Coercion α) (v : Value) : Except Refused (Fields α) :=
  match v with
  | .map es =>
    match entries take es with
    | (fs, []) => .ok (.ofList fs)
    | (_, c :: cs) => .error ⟨c, cs⟩
  | _ => refuse "dict_type"

theorem entries_ofFields {α : Type} {take : Coercion α} {give : α → Value}
    (h : ∀ a, take (give a) = .ok a) (r : Registry α) :
    entries take (Entries.ofFields (r.mapValues give)) = (r, []) := by
  induction r with
  | nil => rfl
  | cons f r ih =>
    have htext : text (.str f.1) = .ok f.1 := rfl
    simp only [Entries.ofFields, Registry.mapValues, List.map_cons] at ih ⊢
    simp only [entries, ih, htext, h]

theorem mapping_ofFields {α : Type} {take : Coercion α} {give : α → Value}
    (h : ∀ a, take (give a) = .ok a) (fields : Fields α) :
    mapping take (.map (Entries.ofFields (fields.entries.mapValues give))) = .ok fields := by
  simp only [mapping, entries_ofFields h, fields.ofList_entries]

end Lax

/-- Values of other types are taken where they mean one of the type. -/
instance : Coercions where
  text := Lax.text
  truth := Lax.truth
  integer := Lax.integer
  path := Lax.path
  texts := Lax.mapping Lax.text
  values := Lax.mapping .ok

theorem Lax.lawful : Coercions.Lawful where
  text _ := rfl
  truth _ := rfl
  integer _ := rfl
  nowhere := rfl
  path _ := rfl
  texts := mapping_ofFields fun _ => rfl
  values fields := by
    have hsame : fields.entries.mapValues id = fields.entries := List.map_id fields.entries
    rw [← hsame]
    exact mapping_ofFields (fun _ => rfl) fields

end Stencil
