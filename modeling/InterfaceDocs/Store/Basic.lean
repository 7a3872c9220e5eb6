import InterfaceDocs.Text.Bytes
import InterfaceDocs.Docs.Collect

/-!
# Stores

A `Store` is where resources come from: it lists them, hands out their bytes, and says where it
looks.  Any three functions make a store; `Store.withFaults` is one whose reads fail as told before
they reach another.
-/

namespace InterfaceDocs

structure Store where
  /-- The names of all resources, sorted. -/
  discover : Logged (Except Failure (List String))
  /-- The bytes of one resource. -/
  read : String → Except Failure Bytes
  /-- Where discovery looks. -/
  location : String

/-- Failures that reads and discovery are to meet. -/
structure Faults where
  onRead : Std.ExtTreeMap String Failure
  onDiscover : Option Failure

namespace Faults

def empty : Faults := ⟨∅, none⟩

end Faults

namespace Store

/-- A store whose reads and discovery first meet the given failures. -/
def withFaults (s : Store) (faults : Faults) : Store where
  discover :=
    match faults.onDiscover with
    | some f => pure (.error f)
    | none => s.discover
  read resource :=
    match faults.onRead[resource]? with
    | some f => .error f
    | none => s.read resource
  location := s.location

/-- The docstrings of one resource, whatever others say. -/
def docsOf (s : Store) (settings : Settings) (resource : String) : Logged (Except Failure Docs) :=
  match s.read resource with
  | .error f => pure (.error f)
  | .ok content => Docs.parse resource content settings

/-- The bytes of a resource, unless there are more than the limit. -/
def bounded (resource : String) (limit : Nat) (content : Bytes) : Except Failure Bytes :=
  if content.length ≤ limit then .ok content else .error (.tooLarge resource limit)

end Store

end InterfaceDocs
