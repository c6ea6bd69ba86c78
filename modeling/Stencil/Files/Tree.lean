import Stencil.Files.Glob
import Stencil.Files.Location

set_option autoImplicit false

/-! # File trees

The files that a run can see, as texts under their locations, and directories. The locations in a
tree have no points in them that could be taken out. -/

namespace Stencil

/-- What is at a location. -/
inductive FileEntry where
  | file (text : String)
  | directory (location : Location)
  deriving DecidableEq, Repr

/-- The texts of files, and directories. A directory is also there if something is in it. -/
structure FileTree where
  files : List (Location × String)
  directories : List Location
  deriving Repr

namespace FileTree

/-- The names in a directory, each once, in ascending order. -/
def children (t : FileTree) (directory : Location) : List String :=
  ((t.files.map (·.1) ++ t.directories).filterMap (·.nameIn? directory)).eraseDups.mergeSort
    fun a b => a ≤ b

/-- Whether there is a directory at a location. -/
def isDirectory (t : FileTree) (l : Location) : Bool :=
  l.names.isEmpty || t.directories.contains l || !(t.children l).isEmpty

/-- What is reached from a directory along names. -/
def walk (t : FileTree) (directory : Location) : List String → Option FileEntry
  | [] => some (.directory directory)
  | n :: ns =>
    let next := directory.step n
    match t.files.lookup next with
    | some text => if ns.isEmpty then some (.file text) else none
    | none => if t.isDirectory next then walk t next ns else none

/-- What is at a location. -/
def find? (t : FileTree) (l : Location) : Option FileEntry :=
  t.walk ⟨if l.isAbsolute then "/" else "", []⟩ l.names

/-- Whether a text leads to something. A text that ends like the name of a directory does not lead
    to a file. -/
def reaches (t : FileTree) (text : String) : Bool :=
  match t.find? (.ofText text) with
  | some (.file _) =>
    match (splitOn '/' text.toList).getLast? with
    | some name => name ≠ [] && name ≠ ['.']
    | none => false
  | some (.directory _) => text ≠ ""
  | none => false

/-- The names along which the directories below a directory are reached, and none for itself. -/
def pathsBelow (t : FileTree) (directory : Location) : List (List String) :=
  let below (l : Location) : List (List String) :=
    if l.root = directory.root && directory.names.isPrefixOf l.names then
      let names := l.names.drop directory.names.length
      (List.range (names.length + 1)).map names.take
    else []
  ([] :: (t.files.flatMap fun f => below f.1.parent) ++ t.directories.flatMap below).eraseDups

/-- The pattern that all directories below a directory fit, and the directory itself. -/
def anyDepth : List Char := ['*', '*']

/-- The locations of what is below a directory and fits patterns, one for each level of names. -/
def select (t : FileTree) (l : Location) : List (List Char) → List Location
  | [] => [l]
  | p :: ps =>
    match t.find? l with
    | some (.directory d) =>
      if p = anyDepth then
        (t.pathsBelow d).flatMap fun names => select t ⟨l.root, l.names ++ names⟩ ps
      else ((t.children d).filter (Glob.accepts p)).flatMap fun n => select t (l.child n) ps
    | _ => []

end FileTree

end Stencil
