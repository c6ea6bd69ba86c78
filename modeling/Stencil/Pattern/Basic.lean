import Stencil.Text.Blank
import Stencil.Text.Digit
import Stencil.Text.Word

set_option autoImplicit false

/-! # Patterns

Regular patterns over the characters of a text, with the anchors at its ends and at the edges of
words. `Pattern.isFoundIn` asks whether some stretch of the text fits. -/

namespace Stencil

/-- One member of a set of characters. -/
inductive CharClass where
  | single (c : Char)
  | range (low high : Char)
  | digit
  | word
  | blank
  | other (c : CharClass)
  deriving DecidableEq, Repr

/-- Whether a character is of a class. -/
def CharClass.contains : CharClass → Char → Bool
  | .single d, c => c == d
  | .range low high, c => low ≤ c && c ≤ high
  | .digit, c => Text.isDigit c
  | .word, c => Text.isWord c
  | .blank, c => Text.isBlank c
  | .other k, c => !k.contains c

/-- A pattern. -/
inductive Pattern where
  /-- Nothing at all. -/
  | empty
  /-- One character of some classes. -/
  | oneOf (classes : List CharClass)
  /-- One character of none of some classes. -/
  | noneOf (classes : List CharClass)
  | seq (p q : Pattern)
  | alt (p q : Pattern)
  /-- Any number of stretches that fit. -/
  | star (p : Pattern)
  /-- The start of the text. -/
  | start
  /-- The end of the text, or the place before a line break that ends it. -/
  | finish
  /-- The edge of a word. -/
  | edge
  deriving DecidableEq, Repr

namespace Pattern

/-! ## Building -/

/-- One or more stretches that fit. -/
def plus (p : Pattern) : Pattern := seq p (star p)

/-- One stretch that fits, or nothing. -/
def optional (p : Pattern) : Pattern := alt p empty

/-- A character itself. -/
def char (c : Char) : Pattern := oneOf [.single c]

/-- Any character but a line break. -/
def dot : Pattern := noneOf [.single '\n']

/-- Patterns one after the other. -/
def all (ps : List Pattern) : Pattern :=
  ps.foldr seq empty

/-- A letter in either case, with the letters that fold to it. -/
def anyCase (c : Char) : Pattern :=
  let more :=
    if c = 'i' then ['ı', 'İ'] else if c = 's' then ['ſ'] else if c = 'k' then ['K'] else []
  oneOf ((c :: c.toUpper :: more).map .single)

/-- A word of small letters in any case. -/
def wordAnyCase (w : String) : Pattern :=
  all (w.toList.map anyCase)

/-! ## Matching -/

/-- Any number of steps `step` from place `i`, each of which moves on, and then `next`. -/
def many (step : Nat → (Nat → Bool) → Bool) : Nat → Nat → (Nat → Bool) → Bool
  | 0, i, next => next i
  | more + 1, i, next => next i || step i fun j => i < j && many step more j next

/-- Whether the character at a place is in a word. -/
def inWord (text : Array Char) (i : Nat) : Bool :=
  (text[i]?).any Text.isWord

/-- Whether a stretch from place `i` on fits after which `next` holds. -/
def fits (text : Array Char) : Pattern → Nat → (Nat → Bool) → Bool
  | .empty, i, next => next i
  | .oneOf ks, i, next => (text[i]?).any (fun c => ks.any (·.contains c)) && next (i + 1)
  | .noneOf ks, i, next => (text[i]?).any (fun c => !ks.any (·.contains c)) && next (i + 1)
  | .seq p q, i, next => fits text p i fun j => fits text q j next
  | .alt p q, i, next => fits text p i next || fits text q i next
  | .star p, i, next => many (fun j k => fits text p j k) (text.size + 1 - i) i next
  | .start, i, next => i == 0 && next i
  | .finish, i, next =>
    (i == text.size || (i + 1 == text.size && text[i]? == some '\n')) && next i
  | .edge, i, next => (i != 0 && inWord text (i - 1)) != inWord text i && next i

/-- Whether some stretch of the text fits. -/
def isFoundIn (p : Pattern) (text : List Char) : Bool :=
  let cs := text.toArray
  (List.range (cs.size + 1)).any fun i => fits cs p i fun _ => true

example : (seq (char 'a') (star dot)).isFoundIn "xa".toList = true ∧
    (all [start, char 'a', finish]).isFoundIn "ba".toList = false := by decide +kernel

end Pattern

end Stencil
