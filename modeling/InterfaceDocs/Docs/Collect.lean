import Std.Data.ExtTreeSet
import InterfaceDocs.Metadata.Resolve

/-!
# Docstrings by key

`Docs` is a finite map from keys to docstrings; its list of entries is in the order of the keys.
`Docs.join` adds what a later map has under new keys.

`Interface.collect` makes a map of the documented elements of an interface.  No two elements, with
or without a docstring, may have the same key: the first one whose key has occurred before stops the
collection, and nothing is kept.
-/

namespace InterfaceDocs

/-! ## Maps -/

/-- Docstrings by the keys of what they document. -/
abbrev Docs := StringMap

namespace Docs

/-- All entries of the first map, and those of the second whose keys are new. -/
def join (docs later : Docs) : Docs := later ∪ docs

/-- The keys of a later map that are taken, in order. -/
def taken (docs later : Docs) : List String := later.keys.filter (· ∈ docs)

theorem getElem?_join (docs later : Docs) (k : String) :
    (docs.join later)[k]? = docs[k]?.or later[k]? := Std.ExtTreeMap.getElem?_union

/-- The keys of a map are those that have a docstring. -/
theorem mem_iff {docs : Docs} {k : String} : k ∈ docs ↔ ∃ d, docs[k]? = some d := by
  rw [Std.ExtTreeMap.mem_iff_isSome_getElem?, Option.isSome_iff_exists]

theorem mem_taken {docs later : Docs} {k : String} : k ∈ docs.taken later ↔ k ∈ later ∧ k ∈ docs := by
  simp [taken]

end Docs

/-! ## Repeated keys -/

/-- The elements before the first one whose key is in the set or has occurred before, and that
element. -/
def splitAtRepeatFrom (seen : Std.ExtTreeSet String) : List Element → List Element × Option Element
  | [] => ([], none)
  | e :: es =>
    if e.key ∈ seen then ([], some e)
    else
      let (before, repeated) := splitAtRepeatFrom (seen.insert e.key) es
      (e :: before, repeated)

/-- The elements up to the first repeated key, and the element that repeats it. -/
def splitAtRepeat (es : List Element) : List Element × Option Element := splitAtRepeatFrom ∅ es

/-! ## Collection -/

/-- The map of the documented elements. -/
def documented (es : List Element) : Docs :=
  Std.ExtTreeMap.ofList (es.filterMap fun e => e.doc.map (e.key, ·))

/-- The notice about an element without a docstring. -/
def undocumentedNotice? (resource : String) (e : Element) : Option Notice :=
  match e.doc with
  | some _ => none
  | none => some (.undocumented resource e.kind e.key)

namespace Interface

/-- The docstrings of an interface by key, or the failure that a key is repeated. -/
def collect (resource : String) (i : Interface) : Logged (Except Failure Docs) := do
  let (before, repeated) := splitAtRepeat i.elements
  Logged.tell (before.filterMap (undocumentedNotice? resource))
  match repeated with
  | some e => pure (.error (.duplicateElement resource e.key))
  | none => pure (.ok (documented before))

end Interface

/-- The docstrings of a resource by key. -/
def Docs.parse (resource : String) (s : Bytes) (settings : Settings) :
    Logged (Except Failure Docs) := do
  match ← Interface.parse resource s settings with
  | .error failure => pure (.error failure)
  | .ok i => i.collect resource

end InterfaceDocs
