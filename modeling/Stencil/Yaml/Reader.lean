import Stencil.Yaml.Plain
import Stencil.Yaml.Scalar

set_option autoImplicit false

/-! # Reading YAML

One document of mappings, lists and scalars, either laid out in lines, where columns show what
belongs together, or in brackets. Mappings keep their entries in order; a key that is repeated keeps
its first place and takes its last value. Anchors, tags and directives are not read. -/

namespace Stencil.Yaml

/-- The mapping with one more entry, if the key can be one. -/
def addEntry (es : Entries) (key value : Value) : Reading Entries :=
  match key.unhashable? with
  | some _ => .error .malformed
  | none => .ok (es.insert key value)

/-! ## Nodes in brackets -/

mutual

/-- Reads a node in brackets. -/
def readFlow : Nat → Marks → Reading (Value × Marks)
  | 0, _ => .error .malformed
  | _, [] => .error .malformed
  | fuel + 1, m :: ms =>
    match m.char with
    | '[' => readFlowItems fuel [] (toToken false ms)
    | '{' => readFlowEntries fuel [] (toToken false ms)
    | '\'' => do
      let (cs, rest) ← readSingle [] (ms.length + 1) ms
      return (.str (String.ofList cs), rest)
    | '"' => do
      let (cs, rest) ← readDouble [] (ms.length + 1) ms
      return (.str (String.ofList cs), rest)
    | _ =>
      if startsPlain true (m :: ms) then do
        let (cs, rest) := readPlain true 0 (m :: ms)
        let v ← plainValue cs
        return (v, rest)
      else .error .malformed

/-- Reads the value after a colon in brackets, which may be missing. -/
def readFlowValue : Nat → Marks → Reading (Value × Marks)
  | 0, _ => .error .malformed
  | fuel + 1, ms =>
    match ms with
    | [] => .error .malformed
    | m :: _ =>
      if m.char = ',' || m.char = ']' || m.char = '}' then .ok (.null, ms)
      else do
        let (v, rest) ← readFlow fuel ms
        return (v, toToken false rest)

/-- Reads the items of a list in brackets. A key and a value among them are a mapping of one
    entry. -/
def readFlowItems : Nat → List Value → Marks → Reading (Value × Marks)
  | 0, _, _ => .error .malformed
  | _, _, [] => .error .malformed
  | fuel + 1, acc, m :: ms =>
    if m.char = ']' then .ok (.list acc.reverse, ms)
    else do
      let (v, rest) ← readFlow fuel (m :: ms)
      let (v, rest) ←
        match toToken false rest with
        | c :: rest =>
          if c.char = ':' then
            if c.line = m.line then do
              let (w, rest) ← readFlowValue fuel (toToken false rest)
              let es ← addEntry [] v w
              pure (Value.map es, rest)
            else .error .malformed
          else .ok (v, c :: rest)
        | [] => .error .malformed
      match rest with
      | c :: rest =>
        if c.char = ',' then readFlowItems fuel (v :: acc) (toToken false rest)
        else if c.char = ']' then return (.list (v :: acc).reverse, rest)
        else .error .malformed
      | [] => .error .malformed

/-- Reads the entries of a mapping in brackets. A key without a value has nothing as its value. -/
def readFlowEntries : Nat → Entries → Marks → Reading (Value × Marks)
  | 0, _, _ => .error .malformed
  | _, _, [] => .error .malformed
  | fuel + 1, acc, m :: ms =>
    if m.char = '}' then .ok (.map acc, ms)
    else do
      let (k, rest) ← readFlow fuel (m :: ms)
      let (v, rest) ←
        match toToken false rest with
        | c :: rest =>
          if c.char = ':' then
            if c.line = m.line then readFlowValue fuel (toToken false rest) else .error .malformed
          else .ok (.null, c :: rest)
        | [] => .error .malformed
      let acc ← addEntry acc k v
      match rest with
      | c :: rest =>
        if c.char = ',' then readFlowEntries fuel acc (toToken false rest)
        else if c.char = '}' then return (.map acc, rest)
        else .error .malformed
      | [] => .error .malformed

end

/-- Reads a node that is not laid out in lines, inside a node that is indented to `indent`. -/
def readInline (fuel : Nat) (indent : Int) (ms : Marks) : Reading (Value × Marks) :=
  match ms with
  | [] => .error .malformed
  | m :: rest =>
    match m.char with
    | '|' => do
      let (cs, rest) ← readBlock false indent rest
      return (.str (String.ofList cs), rest)
    | '>' => do
      let (cs, rest) ← readBlock true indent rest
      return (.str (String.ofList cs), rest)
    | c =>
      if ['[', '{', '\'', '"'].contains c then readFlow fuel ms
      else if startsPlain false ms then do
        let (cs, rest) := readPlain false (indent + 1).toNat ms
        let v ← plainValue cs
        return (v, rest)
      else .error .malformed

/-! ## Nodes in lines -/

/-- Whether what follows a node in lines belongs to nodes around a column: it starts at the column
    or before it. -/
def endsAt (column : Nat) : Marks → Bool
  | [] => true
  | m :: _ => m.column ≤ column

mutual

/-- Reads a node whose first token stands beyond `indent`. -/
def readNode : Nat → Int → Marks → Reading (Value × Marks)
  | 0, _, _ => .error .malformed
  | _, _, [] => .ok (.null, [])
  | fuel + 1, indent, m :: ms =>
    if startsIndicator '-' (m :: ms) then readSequence fuel m.column [] (m :: ms)
    else do
      let (v, rest) ← readInline fuel indent (m :: ms)
      let after := toToken false rest
      if startsIndicator ':' after then readMapping fuel m.column [] (m :: ms)
      else return (v, after)

/-- Reads the items of a list whose hyphens stand in a column. -/
def readSequence : Nat → Nat → List Value → Marks → Reading (Value × Marks)
  | 0, _, _, _ => .error .malformed
  | _, _, _, [] => .error .malformed
  | fuel + 1, column, acc, m :: ms => do
    let (v, rest) ←
      match toToken false ms with
      | [] => .ok (.null, [])
      | t :: ts =>
        if column < t.column && !atDivider (t :: ts) then readNode fuel column (t :: ts)
        else if t.line = m.line then .error .malformed
        else .ok (.null, t :: ts)
    if !endsAt column rest then .error .malformed
    else if startsIndicator '-' rest && (rest.head?.any (·.column == column)) then
      readSequence fuel column (v :: acc) rest
    else return (.list (v :: acc).reverse, rest)

/-- Reads the entries of a mapping whose keys stand in a column. -/
def readMapping : Nat → Nat → Entries → Marks → Reading (Value × Marks)
  | 0, _, _, _ => .error .malformed
  | _, _, _, [] => .error .malformed
  | fuel + 1, column, acc, m :: ms => do
    let (k, rest) ← readInline fuel column (m :: ms)
    match toToken false rest with
    | [] => .error .malformed
    | c :: tail =>
      if !startsIndicator ':' (c :: tail) || c.line ≠ m.line then .error .malformed
      else
        let (v, rest) ←
          match toToken false tail with
          | [] => .ok (.null, [])
          | t :: ts =>
            if t.line = c.line then
              if startsIndicator '-' (t :: ts) then .error .malformed
              else do
                let (v, rest) ← readInline fuel column (t :: ts)
                pure (v, toToken false rest)
            else if column < t.column then readNode fuel column (t :: ts)
            else if t.column = column && startsIndicator '-' (t :: ts) then
              readSequence fuel column [] (t :: ts)
            else .ok (.null, t :: ts)
        let acc ← addEntry acc k v
        match rest with
        | [] => return (.map acc, [])
        | t :: ts =>
          if column < t.column then .error .malformed
          else if t.column = column && !atDivider (t :: ts) then
            readMapping fuel column acc (t :: ts)
          else return (.map acc, t :: ts)

end

/-! ## Documents -/

/-- Reads a text that is one document; an empty text is nothing. -/
def read (text : String) : Reading Value :=
  let cs := text.toList
  if !cs.all isAllowed then .error .malformed
  else
    let cs := if cs.head? = some '\ufeff' then cs.drop 1 else cs
    let ms := toToken false (marksFrom 0 0 cs)
    let body := if startsDivider '-' ms then toToken false (ms.drop 3) else ms
    let ending (rest : Marks) : Bool :=
      rest.isEmpty || (startsDivider '.' rest && (toToken false (rest.drop 3)).isEmpty)
    if ending body then .ok .null
    else if atDivider body then .error .malformed
    else do
      let (v, rest) ← readNode (4 * cs.length + 8) (-1) body
      if ending rest then return v else .error .malformed

end Stencil.Yaml
