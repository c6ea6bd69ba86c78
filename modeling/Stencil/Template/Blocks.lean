import Stencil.Template.Node
import Stencil.Template.Segment

set_option autoImplicit false

/-! # Blocks

A template's tags and texts are put together from left to right, with a stack of the blocks that are
still open. There are two ways to treat tags that do not match:

* `Template.parse` drops them and keeps the bodies of unclosed blocks in place, so every text is a
  template;
* `Template.parseStrict` refuses them and says what is wrong with the first one. -/

namespace Stencil

/-! ## Tags with their lines -/

/-- A text or a tag of a template. A tag knows the line that it starts on. -/
inductive Piece where
  | text (cs : List Char)
  | tag (tag : Tag) (line : Nat)
  deriving DecidableEq, Repr

namespace Piece

/-- The number of line breaks. -/
def breaks (cs : List Char) : Nat :=
  cs.count '\n'

/-- The pieces of a template that starts on a line. -/
def ofSegments (line : Nat) : List Segment → List Piece
  | [] => []
  | .text cs :: ss => .text cs :: ofSegments (line + breaks cs) ss
  | .tag body :: ss => .tag (Tag.read body) line :: ofSegments (line + breaks body) ss

/-- The pieces of a template. -/
def ofText (cs : List Char) : List Piece :=
  ofSegments 1 (Segment.scan cs)

end Piece

/-! ## Open blocks -/

/-- A block that is still open. -/
structure OpenBlock where
  kind : BlockKind
  subject : String
  line : Nat
  /-- The nodes before the block in the body that it belongs to. -/
  before : Template

namespace OpenBlock

/-- The body that the block belongs to, up to and with the block, now that its own body is
    complete. -/
def close (b : OpenBlock) (body : Template) : Template :=
  b.before ++ [.block b.kind b.subject b.line body]

/-- The body that the block belongs to, with the nodes of the block in the place of the block. -/
def dissolve (b : OpenBlock) (body : Template) : Template :=
  Template.join b.before body

end OpenBlock

/-- A template that has been read in part: the open blocks, innermost first, and the nodes of the
    innermost one. -/
structure Progress where
  pending : List OpenBlock
  nodes : Template

/-- What is wrong with the tags of a template. -/
inductive Imbalance where
  /-- A tag closes a block of which none is open. -/
  | unexpected (kind : BlockKind) (line : Nat)
  /-- A tag closes a block while another one in it is open. -/
  | crossing (kind : BlockKind) (line : Nat) (openKind : BlockKind) (openLine : Nat)
  /-- A block is open at the end. -/
  | unclosed (kind : BlockKind) (line : Nat)
  deriving DecidableEq, Repr

namespace Imbalance

/-- The line of the tag that is to blame. -/
def line : Imbalance → Nat
  | .unexpected _ l => l
  | .crossing _ l _ _ => l
  | .unclosed _ l => l

/-- A tag in quotes, for messages. -/
def quotedTag (mark : Char) (kind : BlockKind) : String :=
  String.ofList (['\'', '{', '{', mark] ++ kind.word ++ ['}', '}', '\''])

/-- The words for what is wrong. -/
def detail : Imbalance → String
  | .unexpected k _ => "unexpected " ++ quotedTag '/' k
  | .crossing k _ o l =>
    quotedTag '/' k ++ " closes " ++ quotedTag '#' o ++ " opened on line " ++ toString l
  | .unclosed k _ => quotedTag '#' k ++ " is never closed"

/-- The words for what is wrong, after the line. -/
def message (i : Imbalance) : String :=
  "line " ++ toString i.line ++ ": " ++ i.detail

end Imbalance

namespace Progress

/-- Nothing read. -/
def start : Progress := ⟨[], []⟩

/-- The progress with one more node. -/
def add (p : Progress) (n : Node) : Progress :=
  { p with nodes := Template.add p.nodes n }

/-- The progress with one more open block. -/
def openBlock (p : Progress) (kind : BlockKind) (subject : String) (line : Nat) : Progress :=
  ⟨⟨kind, subject, line, p.nodes⟩ :: p.pending, []⟩

/-- Closes the innermost open block of a kind, if there is one, and dissolves the blocks that were
    opened in it. -/
def closeKind? (kind : BlockKind) : List OpenBlock → Template → Option Progress
  | [], _ => none
  | b :: bs, nodes =>
    if b.kind = kind then some ⟨bs, b.close nodes⟩ else closeKind? kind bs (b.dissolve nodes)

/-- The progress after a piece; a closing tag that matches nothing is dropped. -/
def step (p : Progress) : Piece → Progress
  | .text cs => p.add (.text (String.ofList cs))
  | .tag (.opening kind subject) line => p.openBlock kind (String.ofList subject) line
  | .tag (.closing kind) _ => (closeKind? kind p.pending p.nodes).getD p
  | .tag (.component name arguments) line =>
    p.add (.component (String.ofList name) (String.ofList arguments) line)
  | .tag (.variable e) line => p.add (.variable (String.ofList e) line)

/-- The template, once everything is read: the blocks that are still open are dissolved. -/
def finish (p : Progress) : Template :=
  p.pending.foldl (fun nodes b => b.dissolve nodes) p.nodes

/-- The progress after a closing tag that has to match the innermost open block. -/
def closeStrict (p : Progress) (kind : BlockKind) (line : Nat) : Except Imbalance Progress :=
  match p.pending with
  | [] => .error (.unexpected kind line)
  | b :: bs =>
    if b.kind = kind then .ok ⟨bs, b.close p.nodes⟩
    else if bs.any (·.kind = kind) then .error (.crossing kind line b.kind b.line)
    else .error (.unexpected kind line)

/-- The progress after a piece, where every closing tag has to match. -/
def stepStrict (p : Progress) : Piece → Except Imbalance Progress
  | .tag (.closing kind) line => p.closeStrict kind line
  | piece => .ok (p.step piece)

/-- The template, once everything is read, where no block may be open. -/
def finishStrict (p : Progress) : Except Imbalance Template :=
  match p.pending with
  | [] => .ok p.nodes
  | b :: _ => .error (.unclosed b.kind b.line)

end Progress

namespace Template

/-! ## Parsing -/

/-- The template made of pieces, without the tags that match nothing. -/
def ofPieces (ps : List Piece) : Template :=
  (ps.foldl Progress.step .start).finish

/-- The template made of pieces, if all tags match. -/
def ofPiecesStrict (ps : List Piece) : Except Imbalance Template := do
  let p ← ps.foldlM Progress.stepStrict .start
  p.finishStrict

/-- The template that a text is. -/
def parse (s : String) : Template :=
  ofPieces (Piece.ofText s.toList)

/-- The template that a text is, if all its tags match. -/
def parseStrict (s : String) : Except Imbalance Template :=
  ofPiecesStrict (Piece.ofText s.toList)

end Template

end Stencil
