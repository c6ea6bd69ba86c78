import Stencil.Value.Text

set_option autoImplicit false

/-! # Attributes

A value that is no mapping has attributes, which belong to its type and not to templates: a date has
its year, and a text has the methods of texts. `Attributes` is what templates and cards rely on for
them, and nothing that is said about templates depends on which attributes there are. The instance
knows those of the types in use, for the program that runs.

What an attribute is depends on the value alone. The text of a method would also tell where its
value is kept in memory; that is left out, so that equal values have equal attributes. -/

namespace Stencil

/-- How names are looked up in values. -/
class Attributes where
  /-- The public attribute of a value that is no mapping, if it has one of that name. -/
  find? : Value → String → Option Value
  /-- What the template of a card finds in a value under a name. Such templates have a lookup of
      their own, which also takes the keys of a mapping for names. -/
  field : Value → String → Value

namespace Value

/-- An object of another type. -/
def object (library typeName literal text : String) : Value :=
  .function (.other ⟨typeName, library ++ typeName, literal, true⟩) text

/-- A method, which is written after its name and after the type of what it belongs to. -/
def method (owner name : String) : Value :=
  let text := "<built-in method " ++ name ++ " of " ++ owner ++ " object>"
  object "" "builtin_function_or_method" text text

/-- The names of the methods that texts and byte strings have. -/
def textMethods : List String :=
  ["capitalize", "center", "count", "endswith", "expandtabs", "find", "index", "isalnum", "isalpha",
    "isascii", "isdigit", "islower", "isspace", "istitle", "isupper", "join", "ljust", "lower",
    "lstrip", "partition", "removeprefix", "removesuffix", "replace", "rfind", "rindex", "rjust",
    "rpartition", "rsplit", "rstrip", "split", "splitlines", "startswith", "strip", "swapcase",
    "title", "translate", "upper", "zfill"]

/-- The names of the methods that dates have, with or without a time. -/
def dateMethods : List String :=
  ["ctime", "isocalendar", "isoformat", "isoweekday", "replace", "strftime", "timetuple",
    "toordinal", "weekday"]

/-- The names of the methods of a value. -/
def methods : Value → List String
  | .bool _ => ["as_integer_ratio", "bit_count", "bit_length", "conjugate", "to_bytes"]
  | .int _ => ["as_integer_ratio", "bit_count", "bit_length", "conjugate", "to_bytes"]
  | .float _ => ["as_integer_ratio", "conjugate", "hex", "is_integer"]
  | .str _ =>
    textMethods ++ ["casefold", "encode", "format", "format_map", "isdecimal", "isidentifier",
      "isnumeric", "isprintable"]
  | .bytes _ => textMethods ++ ["decode", "hex"]
  | .date _ => dateMethods
  | .moment _ =>
    dateMethods ++ ["astimezone", "date", "dst", "time", "timestamp", "timetz", "tzname",
      "utcoffset", "utctimetuple"]
  | .zone _ => ["dst", "fromutc", "tzname", "utcoffset"]
  | .list _ =>
    ["append", "clear", "copy", "count", "extend", "index", "insert", "pop", "remove", "reverse",
      "sort"]
  | .tuple _ => ["count", "index"]
  | .map _ =>
    ["clear", "copy", "get", "items", "keys", "pop", "popitem", "setdefault", "update", "values"]
  | _ => []

/-- The names of the methods of the type of a value. -/
def typeMethods : Value → List String
  | .bool _ => ["from_bytes"]
  | .int _ => ["from_bytes"]
  | .float _ => ["fromhex"]
  | .str _ => ["maketrans"]
  | .bytes _ => ["fromhex", "maketrans"]
  | .date _ => ["fromisocalendar", "fromisoformat", "fromordinal", "fromtimestamp", "today"]
  | .moment _ =>
    ["combine", "fromisocalendar", "fromisoformat", "fromordinal", "fromtimestamp", "now",
      "strptime", "today", "utcfromtimestamp", "utcnow"]
  | .map _ => ["fromkeys"]
  | _ => []

/-- The method of a value under a name. -/
def method? (v : Value) (name : String) : Option Value :=
  if v.methods.contains name then some (method v.typeName name)
  else if v.typeMethods.contains name then some (method "type" name)
  else none

/-- The attribute of a value under a name, if it is no method. -/
def datum? (v : Value) (name : String) : Option Value :=
  match v, name with
  | .bool b, "real" => some (.int (if b then 1 else 0))
  | .bool b, "numerator" => some (.int (if b then 1 else 0))
  | .bool _, "imag" => some (.int 0)
  | .bool _, "denominator" => some (.int 1)
  | .int n, "real" => some (.int n)
  | .int n, "numerator" => some (.int n)
  | .int _, "imag" => some (.int 0)
  | .int _, "denominator" => some (.int 1)
  | .float x, "real" => some (.float x)
  | .float _, "imag" => some (.float .zero)
  | .date d, "year" => some (.int d.year)
  | .date d, "month" => some (.int d.month)
  | .date d, "day" => some (.int d.day)
  | .date _, "min" => some (.date ⟨1, 1, 1⟩)
  | .date _, "max" => some (.date ⟨9999, 12, 31⟩)
  | .date _, "resolution" =>
    some (object "datetime." "timedelta" (durationLiteral 86400000000) "1 day, 0:00:00")
  | .moment m, "year" => some (.int m.date.year)
  | .moment m, "month" => some (.int m.date.month)
  | .moment m, "day" => some (.int m.date.day)
  | .moment m, "hour" => some (.int m.hour)
  | .moment m, "minute" => some (.int m.minute)
  | .moment m, "second" => some (.int m.second)
  | .moment m, "microsecond" => some (.int m.microsecond)
  | .moment _, "fold" => some (.int 0)
  | .moment m, "tzinfo" =>
    some (match m.offset with
      | some o => .zone o
      | none => .null)
  | .moment _, "min" => some (.moment (.midnight ⟨1, 1, 1⟩))
  | .moment _, "max" => some (.moment ⟨⟨9999, 12, 31⟩, 23, 59, 59, 999999, none⟩)
  | .moment _, "resolution" =>
    some (object "datetime." "timedelta" (durationLiteral 1) "0:00:00.000001")
  | .zone _, "utc" => some (.zone .utc)
  | .zone _, "min" => some (.zone ⟨-86340000000⟩)
  | .zone _, "max" => some (.zone ⟨86340000000⟩)
  | .record fs, name => fs.lookup name
  | _, _ => none

end Value

/-- The attributes of the types in use. In a mapping, a card finds a method before a key. -/
instance : Attributes where
  find? v name := (v.datum? name).or (v.method? name)
  field v name :=
    match v with
    | .map es => (v.method? name).getD ((Entries.field? es name).getD .undefined)
    | v => ((v.datum? name).or (v.method? name)).getD .undefined

end Stencil
