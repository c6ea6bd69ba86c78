import Stencil.Text.Lines

set_option autoImplicit false

/-! # Locations

Where a file is: a list of names from a root or from the working directory. Empty names and single
points mean nothing and are left out; two points stay, since only a file system knows what they
mean. -/

namespace Stencil

/-- The place of a file or a directory. -/
structure Location where
  /-- The slashes of the root, or nothing for a place below the working directory. -/
  root : String
  names : List String
  deriving DecidableEq, Repr

namespace Location

/-- The location that a text names. Two slashes at the start are a root of their own. -/
def ofText (text : String) : Location :=
  let cs := text.toList
  let slashes := (cs.takeWhile (· == '/')).length
  let root := if slashes = 0 then "" else if slashes = 2 then "//" else "/"
  ⟨root, ((splitOn '/' cs).map String.ofList).filter fun n => n ≠ "" && n ≠ "."⟩

/-- The location as text. -/
def text (l : Location) : String :=
  if l.root.isEmpty && l.names.isEmpty then "." else l.root ++ "/".intercalate l.names

/-- Whether the location does not depend on the working directory. -/
def isAbsolute (l : Location) : Bool := !l.root.isEmpty

/-- The directory that the location is in. -/
def parent (l : Location) : Location := { l with names := l.names.dropLast }

/-- The location of something in a directory. -/
def child (directory : Location) (name : String) : Location :=
  { directory with names := directory.names ++ [name] }

/-- The location that a name leads to from a directory, where two points lead out of it. Above the
    working directory they have to stay. -/
def step (directory : Location) (name : String) : Location :=
  if name ≠ ".." then directory.child name
  else if directory.names.isEmpty then
    if directory.isAbsolute then directory else directory.child name
  else if directory.names.getLast? = some ".." then directory.child name
  else directory.parent

/-- The location without the points that lead out of directories, as far as that can be. -/
def resolved (l : Location) : Location :=
  l.names.foldl step ⟨if l.isAbsolute then "/" else "", []⟩

/-- The name in a directory that leads to a location. -/
def nameIn? (l directory : Location) : Option String :=
  if l.root = directory.root && directory.names.isPrefixOf l.names then
    l.names[directory.names.length]?
  else none

/-- What is in a directory is reached from it by its own name. -/
theorem nameIn?_child (directory : Location) (name : String) :
    (directory.child name).nameIn? directory = some name := by
  simp [nameIn?, child]

/-- A name that is not two points leads to what is in the directory under it. -/
theorem step_eq_child {name : String} (h : name ≠ "..") (directory : Location) :
    directory.step name = directory.child name := by
  simp [step, h]

/-- A location seen from a directory. -/
def under (directory l : Location) : Location :=
  if l.isAbsolute then l else { directory with names := directory.names ++ l.names }

/-- The last name. -/
def name (l : Location) : String := l.names.getLast?.getD ""

/-- A name apart at its last point, unless that is its first or last character. -/
def splitName (name : String) : String × String :=
  let reversed := name.toList.reverse
  let ending := reversed.takeWhile (· ≠ '.')
  match reversed.dropWhile (· ≠ '.') with
  | '.' :: c :: stem =>
    if ending.isEmpty then (name, "")
    else (String.ofList (c :: stem).reverse, String.ofList ('.' :: ending.reverse))
  | _ => (name, "")

/-- The last name without its ending. -/
def stem (l : Location) : String := (splitName l.name).1

/-- The ending of the last name, with its point. -/
def suffix (l : Location) : String := (splitName l.name).2

/-! ## Back from the text -/

/-- A location with one of the three roots and with names that mean something, each for one level. -/
structure Plain (l : Location) : Prop where
  root : l.root = "" ∨ l.root = "/" ∨ l.root = "//"
  names : ∀ n ∈ l.names, n ≠ "" ∧ n ≠ "." ∧ '/' ∉ n.toList

theorem plain_ofText (s : String) : (ofText s).Plain := by
  refine ⟨?_, fun n hn => ?_⟩
  · simp only [ofText]
    split
    · exact .inl rfl
    · split
      · exact .inr (.inr rfl)
      · exact .inr (.inl rfl)
  · obtain ⟨hn, hkept⟩ := List.mem_filter.1 hn
    obtain ⟨piece, hpiece, rfl⟩ := List.mem_map.1 hn
    rw [Bool.and_eq_true, decide_eq_true_eq, decide_eq_true_eq] at hkept
    refine ⟨hkept.1, hkept.2, ?_⟩
    rw [String.toList_ofList]
    exact not_mem_of_mem_splitOn hpiece

variable {l : Location}

/-- The names of a text, without those that mean nothing. -/
def namesIn (cs : List Char) : List String :=
  ((splitOn '/' cs).map String.ofList).filter fun n => n ≠ "" && n ≠ "."

theorem namesIn_slash (cs : List Char) : namesIn ('/' :: cs) = namesIn cs := by
  rw [namesIn, splitOn, if_pos rfl, List.map_cons, List.filter_cons]
  rfl

theorem namesIn_joined (h : l.Plain) :
    namesIn (['/'].intercalate (l.names.map String.toList)) = l.names := by
  cases hnames : l.names with
  | nil => rfl
  | cons n names =>
      rw [← hnames, namesIn, splitOn_eq, List.splitOn_intercalate]
      · rw [List.map_map]
        have hid : (String.ofList ∘ String.toList) = id := by
          funext s
          exact String.ofList_toList
        rw [hid, List.map_id, List.filter_eq_self]
        intro n hn
        simp [h.names n hn]
      · intro cs hcs
        obtain ⟨n, hn, rfl⟩ := List.mem_map.1 hcs
        exact (h.names n hn).2.2
      · simp [hnames]

/-- Joined names do not start with a slash. -/
theorem takeWhile_joined (h : l.Plain) :
    (['/'].intercalate (l.names.map String.toList)).takeWhile (· == '/') = [] := by
  cases hnames : l.names with
  | nil => rfl
  | cons n names =>
      obtain ⟨hne, -, hslash⟩ := h.names n (hnames ▸ List.mem_cons_self)
      obtain ⟨c, cs, hcs⟩ := List.exists_cons_of_ne_nil (mt String.toList_eq_nil_iff.1 hne)
      have hc : c ≠ '/' := by
        rintro rfl
        exact hslash (hcs ▸ List.mem_cons_self)
      rw [List.map_cons, hcs, List.intercalate_cons_cons_left, List.takeWhile_cons_of_neg]
      simpa using hc

/-- The text of a location leads to it again. -/
theorem ofText_text (h : l.Plain) : ofText l.text = l := by
  have hnames := namesIn_joined h
  have hslashes := takeWhile_joined h
  have hof (s : String) : ofText s = ⟨if (s.toList.takeWhile (· == '/')).length = 0 then "" else
      if (s.toList.takeWhile (· == '/')).length = 2 then "//" else "/", namesIn s.toList⟩ := rfl
  by_cases hempty : l = ⟨"", []⟩
  · rw [hempty]
    decide +kernel
  · have htext : l.text.toList = l.root.toList ++ ['/'].intercalate (l.names.map String.toList) := by
      rw [text, if_neg]
      · simp
      · rintro hboth
        rw [Bool.and_eq_true, String.isEmpty_iff, List.isEmpty_iff] at hboth
        refine hempty ?_
        rw [← hboth.1, ← hboth.2]
    obtain ⟨root, names⟩ := l
    rw [hof, htext]
    rcases h.root with rfl | rfl | rfl
    · have hroot : "".toList = [] := rfl
      rw [hroot, List.nil_append, hslashes, hnames]
      rfl
    · have hroot : "/".toList = ['/'] := rfl
      rw [hroot, List.cons_append, List.nil_append, List.takeWhile_cons_of_pos rfl, hslashes,
        namesIn_slash, hnames]
      rfl
    · have hroot : "//".toList = ['/', '/'] := rfl
      rw [hroot, List.cons_append, List.cons_append, List.nil_append,
        List.takeWhile_cons_of_pos rfl, List.takeWhile_cons_of_pos rfl, hslashes, namesIn_slash,
        namesIn_slash, hnames]
      rfl

example : (ofText "./a//../b/").text = "a/../b" ∧ (ofText "").text = "." ∧
    (ofText "/x").text = "/x" := by decide +kernel

example : (ofText "t/a.b.html").stem = "a.b" ∧ (ofText "t/.html").stem = ".html" ∧
    (ofText "c.YML").suffix = ".YML" ∧ (ofText "..").suffix = "" := by decide +kernel

end Location

end Stencil
