import Stencil.Config.Scalar
import Stencil.Text.Word

set_option autoImplicit false

/-! # References to the environment

Texts in settings may refer to variables of the environment: `$` and a name in braces, after which a
modifier says what stands for a variable that is not set.

* Without a modifier the reference stays as it is.
* `:text` and `:-text` give a default.
* `:?text` makes it an error, with the text as its message.
* Any other modifier is an error.

In strict mode every variable must be set. What is put in is not looked through again. -/

namespace Stencil

/-- The variables that are set, with their values. -/
abbrev Environment := List (String × String)

/-- A reference to a variable. -/
structure Reference where
  name : List Char
  /-- What follows the name; it starts with a colon, a question mark or a hyphen. -/
  modifier : Option (List Char)
  deriving DecidableEq, Repr

/-- A part of a text in settings. -/
inductive Fragment where
  | text (cs : List Char)
  | reference (r : Reference)
  deriving DecidableEq, Repr

namespace Reference

/-- The reference as it is written. -/
def source (r : Reference) : List Char :=
  ['$', '{'] ++ r.name ++ r.modifier.getD [] ++ ['}']

/-- Whether a name can start with a character. -/
def isNameStart (c : Char) : Bool :=
  c.isAlpha || c == '_'

/-- Whether a modifier can start with a character. -/
def isModifierStart (c : Char) : Bool :=
  c == ':' || c == '?' || c == '-'

/-- The reference that goes on with a text after its opening brace, and what comes after it. -/
def rest? : List Char → Option (Reference × List Char)
  | [] => none
  | c :: cs =>
    if isNameStart c then
      let name := c :: cs.takeWhile Text.isWord
      match cs.dropWhile Text.isWord with
      | [] => none
      | d :: ds =>
        if d = '}' then some (⟨name, none⟩, ds)
        else if isModifierStart d then
          match ds.dropWhile (· ≠ '}') with
          | [] => none
          | _ :: rest => some (⟨name, some (d :: ds.takeWhile (· ≠ '}'))⟩, rest)
        else none
    else none

theorem length_lt_of_rest? {cs rest : List Char} {r : Reference} (h : rest? cs = some (r, rest)) :
    rest.length < cs.length := by
  cases cs with
  | nil => simp [rest?] at h
  | cons c cs =>
    have hw := (List.dropWhile_suffix (l := cs) Text.isWord).length_le
    simp only [rest?] at h
    split at h
    · split at h
      · cases h
      · rename_i d ds hd
        rw [hd] at hw
        simp at hw
        split at h
        · simp only [Option.some.injEq, Prod.mk.injEq] at h
          simp [← h.2]
          omega
        · split at h
          · have hm := (List.dropWhile_suffix (l := ds) (· ≠ '}')).length_le
            split at h
            · cases h
            · rename_i e es he
              rw [he] at hm
              simp at hm
              simp only [Option.some.injEq, Prod.mk.injEq] at h
              simp [← h.2]
              omega
          · cases h
    · cases h

end Reference

namespace Fragment

/-- The fragment as it is written. -/
def source : Fragment → List Char
  | .text cs => cs
  | .reference r => r.source

/-- Puts a character in front of the text that the fragments start with. -/
def consText (c : Char) : List Fragment → List Fragment
  | .text cs :: fs => .text (c :: cs) :: fs
  | fs => .text [c] :: fs

/-- The references of a text and the texts between them. -/
def scan : List Char → List Fragment
  | [] => []
  | '$' :: '{' :: cs =>
    match h : Reference.rest? cs with
    | some (r, rest) =>
      have := Reference.length_lt_of_rest? h
      .reference r :: scan rest
    | none => consText '$' (scan ('{' :: cs))
  | c :: cs => consText c (scan cs)
termination_by cs => cs.length

end Fragment

/-! ## What stands for a reference -/

/-- Why nothing stands for a reference. -/
inductive ReferenceFault where
  | notSet (name : String)
  /-- The variable is not set, and the reference says what to tell then. -/
  | required (name message : String)
  | badModifier (source : String)
  | defaultRefused (name : String)
  deriving DecidableEq, Repr

namespace ReferenceFault

/-- What can be done about a variable that is not set. -/
def hint (name : String) : String :=
  "Suggestion: Set the variable with 'export " ++ name ++ "=value'"

/-- The words for why nothing stands for a reference. -/
def message : ReferenceFault → String
  | .notSet n => "Required environment variable '" ++ n ++ "' is not set. " ++ hint n
  | .required n m =>
    (if m.isEmpty then "Variable " ++ n ++ " is required" else m) ++ ". " ++ hint n
  | .badModifier s =>
    "Invalid environment variable syntax: " ++ s ++ ". Supported formats: $\x7bVAR\x7d, " ++
      "$\x7bVAR:default\x7d, $\x7bVAR:-default\x7d, $\x7bVAR:?message\x7d"
  | .defaultRefused n =>
    "Environment variable '" ++ n ++ "' is not set and strict mode does not allow its default. " ++
      hint n

end ReferenceFault

/-- What a modifier says about a variable that is not set. -/
inductive Modifier where
  | default (cs : List Char)
  | required (message : List Char)
  | invalid

/-- What a written modifier says. -/
def Modifier.read : List Char → Modifier
  | ':' :: '?' :: m => .required m
  | ':' :: '-' :: d => .default d
  | ':' :: d => .default d
  | _ => .invalid

namespace Reference

/-- What stands for a reference. -/
def resolve (env : Environment) (strict : Bool) (r : Reference) :
    Except ReferenceFault (List Char) :=
  let name := String.ofList r.name
  match env.lookup name with
  | some v => .ok v.toList
  | none =>
    match r.modifier.map Modifier.read with
    | none => if strict then .error (.notSet name) else .ok r.source
    | some (.required m) => .error (.required name (String.ofList m))
    | some .invalid => .error (.badModifier (String.ofList r.source))
    | some (.default d) => if strict then .error (.defaultRefused name) else .ok d

end Reference

/-! ## Substitution -/

/-- What stands for a fragment. -/
def Fragment.resolve (env : Environment) (strict : Bool) :
    Fragment → Except ReferenceFault (List Char)
  | .text cs => .ok cs
  | .reference r => r.resolve env strict

/-- A text with its references replaced. A text that is one whole reference, if it was replaced by
    something else, becomes what the replacement reads as. -/
def substituteText (env : Environment) (strict : Bool) (s : String) :
    Except ReferenceFault Value := do
  let cs := s.toList
  let fragments := Fragment.scan cs
  let parts ← fragments.mapM (Fragment.resolve env strict)
  let replaced := parts.flatten
  match fragments with
  | [.reference _] => return if replaced = cs then .str s else Scalar.ofText replaced
  | _ => return .str (String.ofList replaced)

namespace Value

mutual

/-- A value with the references in all its texts replaced, in the items of lists and the values of
    mappings at any depth. Keys stay as they are. -/
def substitute (env : Environment) (strict : Bool) : Value → Except ReferenceFault Value
  | .str s => substituteText env strict s
  | .list xs => do
    let ys ← substituteItems env strict xs
    return .list ys
  | .map es => do
    let fs ← substituteEntries env strict es
    return .map fs
  | v => .ok v

/-- Items with their references replaced. -/
def substituteItems (env : Environment) (strict : Bool) :
    List Value → Except ReferenceFault (List Value)
  | [] => .ok []
  | x :: xs => do
    let y ← substitute env strict x
    let ys ← substituteItems env strict xs
    return y :: ys

/-- Entries with the references in their values replaced. -/
def substituteEntries (env : Environment) (strict : Bool) :
    List (Value × Value) → Except ReferenceFault (List (Value × Value))
  | [] => .ok []
  | (k, v) :: es => do
    let w ← substitute env strict v
    let fs ← substituteEntries env strict es
    return (k, w) :: fs

end

end Value

end Stencil
