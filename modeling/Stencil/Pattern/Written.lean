import Stencil.Pattern.Basic

set_option autoImplicit false

/-! # Written patterns

Patterns as they are written: characters for themselves, `.` for any character, `^` and `$` for the
ends, sets in brackets, `*`, `+` and `?` after what they repeat, `|` between alternatives, and
groups in parentheses. A backslash takes the meaning from a sign and gives one to some letters. -/

namespace Stencil

/-- What is wrong with a written pattern, and at which place. -/
inductive PatternFault where
  | openGroup (place : Nat)
  | strayClose (place : Nat)
  | openSet (place : Nat)
  | nothingToRepeat (place : Nat)
  | repeatedTwice (place : Nat)
  | badRange (low high : Char) (place : Nat)
  | badEscape (c : Char) (place : Nat)
  | lastEscape (place : Nat)
  deriving DecidableEq, Repr

namespace PatternFault

/-- The place. -/
def position : PatternFault → Nat
  | .openGroup i => i
  | .strayClose i => i
  | .openSet i => i
  | .nothingToRepeat i => i
  | .repeatedTwice i => i
  | .badRange _ _ i => i
  | .badEscape _ i => i
  | .lastEscape i => i

/-- The words for what is wrong. -/
def detail : PatternFault → String
  | .openGroup _ => "missing ), unterminated subpattern"
  | .strayClose _ => "unbalanced parenthesis"
  | .openSet _ => "unterminated character set"
  | .nothingToRepeat _ => "nothing to repeat"
  | .repeatedTwice _ => "multiple repeat"
  | .badRange l h _ => "bad character range " ++ String.ofList [l, '-', h]
  | .badEscape c _ => "bad escape " ++ String.ofList ['\\', c]
  | .lastEscape _ => "bad escape (end of pattern)"

/-- The words for what is wrong with a pattern and where, with line and column if the pattern has
    several lines. -/
def message (f : PatternFault) (pattern : List Char) : String :=
  let before := pattern.take f.position
  let column := (before.reverse.takeWhile (· ≠ '\n')).length + 1
  f.detail ++ " at position " ++ toString f.position ++
    (if pattern.contains '\n' then
      " (line " ++ toString (before.count '\n' + 1) ++ ", column " ++ toString column ++ ")"
    else "")

end PatternFault

namespace Pattern

/-! ## Parts -/

/-- What a part of a pattern can take after it. -/
inductive PartKind where
  | plain
  | anchor
  | repeated
  deriving DecidableEq

/-- A part of a pattern. -/
structure Part where
  pattern : Pattern
  kind : PartKind

/-- A group that has been read in part. -/
structure OpenGroup where
  opened : Nat
  /-- The alternatives before the last bar, the last one first. -/
  alternatives : List Pattern
  /-- The parts since then, the last one first. -/
  parts : List Part

namespace OpenGroup

/-- The parts since the last bar, one after the other. -/
def sequence (g : OpenGroup) : Pattern :=
  all (g.parts.reverse.map (·.pattern))

/-- What the group says so far. -/
def pattern (g : OpenGroup) : Pattern :=
  g.alternatives.foldl (fun later p => alt p later) g.sequence

/-- The group with one more part. -/
def push (g : OpenGroup) (kind : PartKind) (p : Pattern) : OpenGroup :=
  { g with parts := ⟨p, kind⟩ :: g.parts }

/-- The group with its last part repeated. -/
def repeatLast (g : OpenGroup) (position : Nat) (how : Pattern → Pattern) :
    Except PatternFault OpenGroup :=
  match g.parts with
  | [] => .error (.nothingToRepeat position)
  | p :: ps =>
    match p.kind with
    | .anchor => .error (.nothingToRepeat position)
    | .repeated => .error (.repeatedTwice position)
    | .plain => .ok { g with parts := ⟨how p.pattern, .repeated⟩ :: ps }

end OpenGroup

/-! ## Escapes and sets -/

/-- The class that a letter after a backslash stands for. -/
def escapedClass? : Char → Option CharClass
  | 'd' => some .digit
  | 'D' => some (.other .digit)
  | 'w' => some .word
  | 'W' => some (.other .word)
  | 's' => some .blank
  | 'S' => some (.other .blank)
  | 'n' => some (.single '\n')
  | 't' => some (.single '\t')
  | 'r' => some (.single '\r')
  | 'f' => some (.single '\x0c')
  | 'v' => some (.single '\x0b')
  | 'a' => some (.single '\x07')
  | c => if c.isAlphanum then none else some (.single c)

/-- Reads the members of a set up to its closing bracket, where `opened` is the place of the opening
    one and `i` the present place. A bracket in the first place is a member. -/
def readSet (opened i : Nat) (classes : List CharClass) (first : Bool) :
    List Char → Except PatternFault (List CharClass × List Char × Nat)
  | [] => .error (.openSet opened)
  | ']' :: cs =>
    if first then readSet opened (i + 1) [.single ']'] false cs else .ok (classes, cs, i + 1)
  | '\\' :: c :: cs =>
    match escapedClass? c with
    | some k => readSet opened (i + 2) (k :: classes) false cs
    | none => .error (.badEscape c i)
  | c :: '-' :: ']' :: cs => .ok (.single '-' :: .single c :: classes, cs, i + 3)
  | c :: '-' :: d :: cs =>
    if c ≤ d then readSet opened (i + 3) (.range c d :: classes) false cs
    else .error (.badRange c d i)
  | c :: cs => readSet opened (i + 1) (.single c :: classes) false cs

/-! ## Reading -/

/-- Reads the characters of a pattern from place `i` on; `outer` are the groups around the group
    `g`. Every step takes at least one character, so `fuel` characters are enough. -/
def readFrom (outer : List OpenGroup) (g : OpenGroup) (i : Nat) :
    Nat → List Char → Except PatternFault Pattern
  | 0, _ => .ok g.pattern
  | _, [] => if outer.isEmpty then .ok g.pattern else .error (.openGroup g.opened)
  | fuel + 1, c :: cs =>
    match c with
    | '(' => readFrom (g :: outer) ⟨i, [], []⟩ (i + 1) fuel cs
    | ')' =>
      match outer with
      | [] => .error (.strayClose i)
      | o :: os => readFrom os (o.push .plain g.pattern) (i + 1) fuel cs
    | '|' =>
      readFrom outer { g with alternatives := g.sequence :: g.alternatives, parts := [] } (i + 1)
        fuel cs
    | '*' => do readFrom outer (← g.repeatLast i star) (i + 1) fuel cs
    | '+' => do readFrom outer (← g.repeatLast i plus) (i + 1) fuel cs
    | '?' => do readFrom outer (← g.repeatLast i optional) (i + 1) fuel cs
    | '.' => readFrom outer (g.push .plain dot) (i + 1) fuel cs
    | '^' => readFrom outer (g.push .anchor start) (i + 1) fuel cs
    | '$' => readFrom outer (g.push .anchor finish) (i + 1) fuel cs
    | '[' =>
      match cs with
      | '^' :: cs => do
        let (ks, rest, j) ← readSet i (i + 2) [] true cs
        readFrom outer (g.push .plain (noneOf ks)) j fuel rest
      | cs => do
        let (ks, rest, j) ← readSet i (i + 1) [] true cs
        readFrom outer (g.push .plain (oneOf ks)) j fuel rest
    | '\\' =>
      match cs with
      | [] => .error (.lastEscape i)
      | 'b' :: cs => readFrom outer (g.push .anchor edge) (i + 2) fuel cs
      | d :: cs =>
        match escapedClass? d with
        | some k => readFrom outer (g.push .plain (oneOf [k])) (i + 2) fuel cs
        | none => .error (.badEscape d i)
    | c => readFrom outer (g.push .plain (char c)) (i + 1) fuel cs

/-- Reads a pattern that is all of the text. -/
def read (cs : List Char) : Except PatternFault Pattern :=
  readFrom [] ⟨0, [], []⟩ 0 (cs.length + 1) cs

example : (read "a|b*".toList).toOption =
    some (alt (all [char 'a']) (all [star (char 'b')])) := by
  decide +kernel

example : read ['('] = .error (.openGroup 0) ∧ read ['[', 'a'] = .error (.openSet 0) ∧
    read ['*'] = .error (.nothingToRepeat 0) := ⟨rfl, rfl, rfl⟩

end Pattern

end Stencil
