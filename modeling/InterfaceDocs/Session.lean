import InterfaceDocs.Catalogue

/-!
# Sessions

A `Session` answers look-ups over a long time.  It builds the catalogue at the first look-up that
succeeds in it and keeps it from then on, whatever becomes of the store; a failure is not kept.
-/

namespace InterfaceDocs

structure Session where
  settings : Settings
  cached : Option Catalogue

namespace Session

def start (settings : Settings) : Session := ⟨settings, none⟩

/-- The docstrings of one resource as the store has it now. -/
def docsOf (x : Session) (s : Store) (resource : String) : Logged (Except Failure Docs) :=
  s.docsOf x.settings resource

/-- The catalogue, and the session after it. -/
def catalogue (x : Session) (s : Store) : Logged (Except Failure Catalogue × Session) :=
  match x.cached with
  | some c => pure (.ok c, x)
  | none => do
    match ← s.catalogue x.settings with
    | .ok c => pure (.ok c, { x with cached := some c })
    | .error failure => pure (.error failure, x)

/-- The docstring of a key in the catalogue, and the session after it. -/
def lookup (x : Session) (s : Store) (key : String) :
    Logged (Except Failure (Option String) × Session) := do
  let (result, x) ← x.catalogue s
  pure (result.map fun c => c.docs[key]?, x)

end Session

end InterfaceDocs
