import InterfaceDocs.Store.Basic

/-!
# Catalogues

A `Catalogue` merges the docstrings of many resources.  Every resource is read on its own first;
then they are merged in the order of their names, so that of two resources with the same key the
first one by name keeps it, in whatever order they were given.  A resource that fails is listed and
left out.
-/

namespace InterfaceDocs

structure Catalogue where
  docs : Docs
  /-- The resources that were merged, in order. -/
  loaded : List String
  /-- The resources that failed, in order. -/
  failures : List (String × Failure)
  /-- How many docstrings were left out because an earlier resource has their key. -/
  shadowed : Nat

namespace Catalogue

/-! ## Merging -/

def empty : Catalogue := ⟨∅, [], [], 0⟩

/-- Adds the outcome of one resource. -/
def add (c : Catalogue) (resource : String) : Except Failure Docs → Logged Catalogue
  | .ok later => do
    let taken := c.docs.taken later
    Logged.tell (.taken resource later.size :: taken.map (.alreadyDefined resource))
    pure {
      docs := c.docs.join later
      loaded := c.loaded ++ [resource]
      failures := c.failures
      shadowed := c.shadowed + taken.length }
  | .error failure => do
    Logged.tell [.skipping resource failure]
    pure { c with failures := c.failures ++ [(resource, failure)] }

/-- Adds outcomes one after the other. -/
def addAll (c : Catalogue) (outcomes : List (String × Except Failure Docs)) : Logged Catalogue :=
  outcomes.foldlM (fun c o => c.add o.1 o.2) c

/-- Merges outcomes, from nothing. -/
def merge (outcomes : List (String × Except Failure Docs)) : Logged Catalogue := do
  let c ← empty.addAll outcomes
  Logged.tell [.indexed c.docs.size c.loaded.length c.failures.length]
  pure c

/-- Whether resources were tried and none could be read. -/
def nothingReadable (c : Catalogue) : Bool :=
  c.loaded.isEmpty && c.failures.all fun f => f.2.isReadFailure

end Catalogue

namespace Store

/-! ## Building -/

/-- The outcome of one resource, under its name. -/
def outcome (s : Store) (settings : Settings) (resource : String) :
    Logged (String × Except Failure Docs) := do
  let result ← s.docsOf settings resource
  pure (resource, result)

/-- The catalogue of the given resources. -/
def catalogueOf (s : Store) (settings : Settings) (resources : List String) :
    Logged Catalogue := do
  let outcomes ← (Text.sortedDistinct resources).mapM (s.outcome settings)
  Catalogue.merge outcomes

/-- The catalogue of everything that a store discovers.  There is none if nothing is discovered or
nothing that is discovered can be read; resources with faults in them do not prevent it. -/
def catalogue (s : Store) (settings : Settings) : Logged (Except Failure Catalogue) := do
  match ← s.discover with
  | .error failure => pure (.error failure)
  | .ok [] => pure (.error (.nothingFound s.location))
  | .ok resources =>
    let c ← s.catalogueOf settings resources
    if c.nothingReadable then pure (.error (.nothingFound s.location)) else pure (.ok c)

end Store

end InterfaceDocs
