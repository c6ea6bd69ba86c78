set_option autoImplicit false

/-! # Escaped text

Text that is put into a page has its five significant characters replaced by entities. The main
statement is `decode_escape`: replacing the entities back gives the text, so nothing is lost and no
text is escaped twice. -/

namespace Stencil.Html

/-- How one character is written in escaped text. -/
def escapeChar : Char → List Char
  | '&' => ['&', 'a', 'm', 'p', ';']
  | '<' => ['&', 'l', 't', ';']
  | '>' => ['&', 'g', 't', ';']
  | '"' => ['&', '#', '3', '4', ';']
  | '\'' => ['&', '#', '3', '9', ';']
  | c => [c]

/-- The text with its significant characters written as entities. -/
def escapeChars (cs : List Char) : List Char :=
  cs.flatMap escapeChar

/-- The text with its significant characters written as entities. -/
def escape (s : String) : String :=
  String.ofList (escapeChars s.toList)

/-- The text with the five entities replaced back. -/
def decodeChars : List Char → List Char
  | '&' :: 'a' :: 'm' :: 'p' :: ';' :: cs => '&' :: decodeChars cs
  | '&' :: 'l' :: 't' :: ';' :: cs => '<' :: decodeChars cs
  | '&' :: 'g' :: 't' :: ';' :: cs => '>' :: decodeChars cs
  | '&' :: '#' :: '3' :: '4' :: ';' :: cs => '"' :: decodeChars cs
  | '&' :: '#' :: '3' :: '9' :: ';' :: cs => '\'' :: decodeChars cs
  | c :: cs => c :: decodeChars cs
  | [] => []

/-- A character that starts no entity is decoded to itself. -/
theorem decodeChars_cons {c : Char} (cs : List Char) (h : c ≠ '&') :
    decodeChars (c :: cs) = c :: decodeChars cs := by
  rw [decodeChars.eq_def]
  split <;> simp_all

/-- Decoding takes one escaped character off the front. -/
theorem decodeChars_escapeChar_append (c : Char) (cs : List Char) :
    decodeChars (escapeChar c ++ cs) = c :: decodeChars cs := by
  unfold escapeChar
  split <;> try rfl
  rename_i h _ _ _ _
  exact decodeChars_cons cs fun hc => h hc

/-- Decoding an escaped text gives the text. -/
theorem decode_escape (cs : List Char) : decodeChars (escapeChars cs) = cs := by
  induction cs with
  | nil => rfl
  | cons c cs ih =>
    rw [escapeChars, List.flatMap_cons, decodeChars_escapeChar_append]
    exact congrArg _ ih

end Stencil.Html
