import Stencil.Template.Blocks

set_option autoImplicit false

/-! # The cache of parsed templates

A cache holds the templates parsed last, oldest first, up to its capacity. Finding a template in it
does not make it younger. -/

namespace Stencil

/-- Parsed templates under their texts, oldest first. A capacity of zero or less means none. -/
structure Cache where
  capacity : Int
  entries : List (String × Template)
  /-- Each template is the one that its text is. -/
  parsed : ∀ entry ∈ entries, entry.2 = Template.parse entry.1

namespace Cache

/-- The cache without any templates. -/
def empty (capacity : Int) : Cache := ⟨capacity, [], fun _ h => nomatch h⟩

/-- The texts of the cached templates, oldest first. -/
def texts (c : Cache) : List String :=
  c.entries.map (·.1)

/-- The entries that stay when there is one more: all but the oldest one if there is no room for
    both. -/
def kept (c : Cache) : List (String × Template) :=
  if c.capacity ≤ c.entries.length then c.entries.drop 1 else c.entries

theorem parsed_kept (c : Cache) : ∀ entry ∈ c.kept, entry.2 = Template.parse entry.1 := by
  intro entry h
  unfold kept at h
  split at h
  · exact c.parsed entry (List.mem_of_mem_drop h)
  · exact c.parsed entry h

/-- The cache with one more template, without the oldest one if there is no room for both. -/
def store (c : Cache) (text : String) (nodes : Template) (h : nodes = Template.parse text) : Cache :=
  if 0 < c.capacity then
    { capacity := c.capacity
      entries := c.kept ++ [(text, nodes)]
      parsed := List.forall_mem_append.2 ⟨c.parsed_kept, List.forall_mem_singleton.2 h⟩ }
  else c

/-- The template that a text is, and the cache once it is known. -/
def parse (c : Cache) (text : String) : Cache × Template :=
  match c.entries.lookup text with
  | some nodes => (c, nodes)
  | none =>
    let nodes := Template.parse text
    (c.store text nodes rfl, nodes)

@[simp] theorem capacity_store (c : Cache) (text : String) (nodes : Template)
    (h : nodes = Template.parse text) : (c.store text nodes h).capacity = c.capacity := by
  unfold store
  split <;> rfl

@[simp] theorem capacity_parse (c : Cache) (text : String) :
    (c.parse text).1.capacity = c.capacity := by
  unfold parse
  split <;> simp

/-- The template that a text is does not depend on what is cached. -/
@[simp] theorem parse_snd (c : Cache) (text : String) : (c.parse text).2 = Template.parse text := by
  unfold parse
  split
  · rename_i nodes h
    obtain ⟨before, after, hentries, -⟩ := List.lookup_eq_some_iff.1 h
    exact c.parsed (text, nodes) (by simp [hentries])
  · rfl

end Cache

end Stencil
