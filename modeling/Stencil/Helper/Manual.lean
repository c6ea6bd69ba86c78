import Stencil.Helper.Builtins

set_option autoImplicit false

/-! # The manual of the helpers

What each helper of the library is for, with a sample of its use. -/

namespace Stencil

/-- An entry of the manual. -/
structure ManualEntry where
  /-- The name of the helper. -/
  name : String
  purpose : String
  sample : String
  deriving DecidableEq, Repr

/-- The entry of a helper whose sample is one tag. -/
def ManualEntry.ofTag (name purpose tag : String) : ManualEntry :=
  ⟨name, purpose, "\x7b\x7b" ++ tag ++ "\x7d\x7d"⟩

/-- The entry of a helper whose sample is a tag and what it prints. -/
def ManualEntry.ofPrinted (name purpose tag printed : String) : ManualEntry :=
  ⟨name, purpose, "\x7b\x7b" ++ tag ++ "\x7d\x7d → " ++ printed⟩

/-- The entry of a helper whose sample is a condition. -/
def ManualEntry.ofCondition (name purpose condition : String) : ManualEntry :=
  ⟨name, purpose, "\x7b\x7b#if " ++ condition ++ "\x7d\x7d...\x7b\x7b/if\x7d\x7d"⟩

namespace Builtin

/-- The manual, in the order of the helpers. -/
def manual : List ManualEntry := [
  .ofPrinted "formatDate" "Format a date (short, long, time)" "formatDate date \"short\""
    "Jan 5, 2024",
  .ofTag "truncate" "Truncate text to length" "truncate summary 50",
  .ofPrinted "join" "Join a list" "join tags \" / \"" "a / b",
  .ofTag "upper" "Uppercase text" "upper name",
  .ofTag "lower" "Lowercase text" "lower name",
  .ofTag "capitalize" "Capitalize first letter only" "capitalize category",
  .ofTag "default" "Fallback for missing values" "default title \"Untitled\"",
  .ofTag "add" "Add two numbers" "add @index 1",
  .ofTag "subtract" "Subtract two numbers" "subtract total 1",
  .ofTag "multiply" "Multiply two numbers" "multiply price 2",
  .ofTag "divide" "Divide two numbers" "divide total count",
  .ofCondition "eq" "Strict equality" "eq status \"open\"",
  .ofTag "ne" "Strict inequality" "ne status \"closed\"",
  .ofCondition "gt" "Greater than" "gt count 0",
  .ofTag "lt" "Less than" "lt count 10",
  .ofTag "gte" "Greater than or equal" "gte count 1",
  .ofTag "lte" "Less than or equal" "lte count 9"]

end Builtin

end Stencil
