import Stencil.Calendar.Written
import Stencil.Text.Casing
import Stencil.Value.Number
import Stencil.Value.Text

set_option autoImplicit false

/-! # Helpers for texts and dates

The functions that templates format texts, lists and dates with. They take any value: what is no
text is taken as a page shows it. -/

namespace Stencil

namespace Value

/-- The moment that a value gives: a moment, a day, the milliseconds since 1970, or a text. -/
def moment? : Value → Option Moment
  | .moment m => some m
  | .date d => some (.midnight d)
  | .int n =>
    match Number.div (.int n) (.int 1000) with
    | .ok (.float seconds) => Moment.ofEpochSeconds? seconds
    | _ => none
  | .float x => Moment.ofEpochMillis? x
  | .str s => Moment.read? s
  | _ => none

/-- The preset that a value names; anything else means the long one. -/
def datePreset : Value → DatePreset
  | .str s => (DatePreset.ofName? s).getD .long
  | _ => .long

end Value

namespace Helper

/-- A value as a date in words: nothing for an absent value, and a value that gives no moment as it
    is. -/
def formatDate (v preset : Value) : Value :=
  if v.holds then
    match v.moment? with
    | some m => .str (m.show preset.datePreset)
    | none => v
  else .str ""

/-- The number of characters that `truncate` keeps: an unusable length means a hundred. -/
def lengthLimit (length : Value) : Number :=
  let n := length.toNumber
  if n.isNaN then .int 100 else n

/-- The integer part of a number. -/
def wholePart : Number → Outcome Int
  | .int n => .ok n
  | .float x =>
    match x.truncate? with
    | some n => .ok n
    | none => .error .infiniteCount

/-- The start of a text and a suffix, unless the text is short enough. -/
def truncate (text length suffix : Value) : Outcome Value :=
  if text.holds then do
    let (s, short) ←
      match text with
      | .str s => pure (s, text)
      | v => do
        let s ← v.display
        pure (s, .str s)
    let limit := lengthLimit length
    match (Number.int s.length).compare? limit with
    | some .gt =>
      let n ← wholePart limit
      let rest ← suffix.display
      return .str (String.ofList (s.toList.take n.toNat) ++ rest)
    | _ => return short
  else .ok text

/-- The items of a list with a separator between them; nothing for anything else. -/
def join (items separator : Value) : Outcome Value :=
  match items.items? with
  | none => .ok (.str "")
  | some xs => do
    let s ← separator.display
    let texts ← xs.mapM Value.display
    return .str (s.intercalate texts)

/-- A text in capitals. -/
def upper (text : Value) : Outcome Value := do
  let s ← text.display
  return .str (String.ofList (Text.toUpper s.toList))

/-- A text in small letters. -/
def lower (text : Value) : Outcome Value := do
  let s ← text.display
  return .str (String.ofList (Text.toLower s.toList))

/-- A text with its first character in capitals. -/
def capitalize (text : Value) : Outcome Value := do
  let s ← text.display
  match s.toList with
  | [] => return .str ""
  | c :: cs => return .str (String.ofList (Text.upperChar c ++ cs))

/-- A value, or another one in the place of nothing and of an empty text. -/
def orElse (v fallback : Value) : Value :=
  match v with
  | .null => fallback
  | .str s => if s.isEmpty then fallback else v
  | _ => v

end Helper

end Stencil
