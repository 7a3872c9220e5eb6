import InterfaceDocs.Path
import InterfaceDocs.Store.Basic

/-!
# Resources in memory

A `MemoryStore` holds resources by name.  It discovers those below its directory.
-/

namespace InterfaceDocs

structure MemoryStore where
  resources : Std.ExtTreeMap String Bytes
  directory : String
  limit : Nat

namespace MemoryStore

/-- A store without resources. -/
def empty (settings : Settings) : MemoryStore :=
  ⟨∅, Path.trimSlashes settings.resourceDir, settings.maxResourceBytes⟩

/-- Adds or replaces a resource. -/
def insert (m : MemoryStore) (resource : String) (content : Bytes) : MemoryStore :=
  { m with resources := m.resources.insert resource content }

/-- The name of a resource in the directory. -/
def pathOf (m : MemoryStore) (name : String) : String := m.directory ++ "/" ++ name

/-- Whether discovery lists a resource. -/
def lists (m : MemoryStore) (resource : String) : Bool :=
  Path.startsWith (m.directory ++ "/") resource && Path.hasSuffix Path.resourceSuffix resource

def read (m : MemoryStore) (resource : String) : Except Failure Bytes :=
  match m.resources[resource]? with
  | none => .error (.notFound resource)
  | some content => Store.bounded resource m.limit content

def store (m : MemoryStore) : Store where
  discover := pure (.ok (m.resources.keys.filter m.lists))
  read := m.read
  location := "memory:" ++ m.directory

end MemoryStore

end InterfaceDocs
