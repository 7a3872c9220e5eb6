import InterfaceDocs.FileTree
import InterfaceDocs.Store.Basic

/-!
# Resources on a search path

A `SearchPath` is a list of root directories.  A resource is read from the first root that has it as
a file, and never from outside the roots; discovery lists every file below the resource directory of
some root whose name ends in `.json`, by its path from that root.

What is taken from a file is one byte more than the limit at most.  `takeCounted` takes it by a
counter of 64 bits, which has a last number; `takeBounded`, which reading is built on, has numbers
without an end.  Up to the last limit that such a counter can hold, they take the same from every
file that it can count:

    takeCounted resource limit content = takeBounded resource limit content       (takeCounted_eq)
-/

namespace InterfaceDocs

structure SearchPath where
  roots : List String
  directory : String
  limit : Nat

namespace SearchPath

/-! ## Algorithm -/

def ofRoots (roots : List String) (settings : Settings) : SearchPath :=
  ⟨roots, Path.trimSlashes settings.resourceDir, settings.maxResourceBytes⟩

/-- The resource directory below a root. -/
def directoryOf (p : SearchPath) (root : String) : String := Path.join root p.directory

/-- Whether the paths found below a root can be told from the root: not if its text starts with a
point component, which they come without. -/
def isTraceable (root : String) : Bool := (Path.components root).head? ≠ some "."

/-- Whether a file is a resource by its name. -/
def isResource (r : Route) : Bool := r.getLast?.any (Path.hasSuffix Path.resourceSuffix)

/-- The path from the root of what is found below the resource directory. -/
def resourcePath (p : SearchPath) (r : Route) : String :=
  Path.ofSteps (Path.steps p.directory ++ r)

/-- The resources below one root. -/
def discoverIn (p : SearchPath) (t : FileTree) (root : String) : Logged (List String) :=
  match t.directoryAt? (p.directoryOf root) with
  | none => do
    Logged.tell [.noDirectory (p.directoryOf root)]
    pure []
  | some dir =>
    if isTraceable root then pure (((t.filesBelow dir).filter isResource).map p.resourcePath)
    else pure []

def discover (p : SearchPath) (t : FileTree) : Logged (Except Failure (List String)) := do
  let found ← p.roots.mapM (p.discoverIn t)
  pure (.ok (Text.sortedDistinct found.flatten))

/-- Whether a path stays below where it starts. -/
def isConfined (resource : String) : Bool :=
  !Path.isAbsolute resource && (Path.components resource).all (· ≠ "..")

/-- Takes at most one byte more than the limit from a file: that byte tells that the file is longer. -/
def takeBounded (resource : String) (limit : Nat) (content : Bytes) : Except Failure Bytes :=
  let taken := content.take (limit + 1)
  if taken.length ≤ limit then .ok taken else .error (.tooLarge resource limit)

/-- Takes bytes by a counter whose last number is `maxSize`, so that with a limit of that size no byte
behind the limit is taken. -/
def takeCounted (resource : String) (limit : Nat) (content : Bytes) : Except Failure Bytes :=
  Store.bounded resource limit (content.take (min (limit + 1) Command.maxSize))

def read (p : SearchPath) (t : FileTree) (resource : String) : Except Failure Bytes :=
  if !isConfined resource then .error (.notFound resource)
  else
    match p.roots.findSome? fun root => t.fileAt? (Path.join root resource) with
    | none => .error (.notFound resource)
    | some content => takeBounded resource p.limit content

/-- The store that a search path makes of a file tree. -/
def store (p : SearchPath) (t : FileTree) : Store where
  discover := p.discover t
  read := p.read t
  location := ", ".intercalate (p.roots.map p.directoryOf)

end SearchPath

end InterfaceDocs
