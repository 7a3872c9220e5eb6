import InterfaceDocs.Interface
import InterfaceDocs.Context
import InterfaceDocs.Metadata.Basic

/-!
# Metadata resolved to an interface

Names become full and are checked.  Bare names are joined to one namespace for the whole document:
the one that the document declares for all languages, else the first usable one among the preferred
scopes, else the only one that it declares, else none.  `Metadata.interface` stops at the first flaw
in the order of declaration; nothing but names is changed.
-/

namespace InterfaceDocs

namespace Metadata

/-! ## The namespace of bare names -/

/-- The declared namespaces that come into question, the preferred ones first.  A lone one that is
also preferred is listed twice. -/
def candidates (m : Metadata) (scopes : List String) : List (String × String) :=
  let preferred := scopes.filterMap fun scope => m.namespaces[scope]?.map (scope, ·)
  if m.namespaces.size = 1 then preferred ++ m.namespaces.toList else preferred

/-- The candidates that are passed over because they are not paths. -/
def ignored (m : Metadata) (scopes : List String) : List (String × String) :=
  match m.commonNamespace with
  | some _ => []
  | none => (m.candidates scopes).takeWhile fun c => !Name.isPath c.2

/-- The namespace of bare names, if there is one. -/
def home? (m : Metadata) (scopes : List String) : Option String :=
  match m.commonNamespace with
  | some name => if name = "" then none else some name
  | none => ((m.candidates scopes).find? fun c => Name.isPath c.2).map Prod.snd

/-- A namespace for all languages has to be a path or empty. -/
def checkNamespace (m : Metadata) : Except Flaw Unit :=
  match m.commonNamespace with
  | some name => if name = "" || Name.isPath name then .ok () else .error (.invalidNamespace name)
  | none => .ok ()

/-! ## Names -/

/-- A bare name in its namespace. -/
def qualify (home? : Option String) (name : String) : String :=
  match home? with
  | some home => home ++ "." ++ name
  | none => name

/-- The full name of an entry. -/
def fullName (home? : Option String) (kind : EntryKind) (index : Nat)
    (qualified bare : Option String) : Except Flaw String :=
  match qualified.or (bare.map (qualify home?)) with
  | none => .error (.nameless kind index)
  | some name => if Name.isPath name then .ok name else .error (.invalidName kind name)

def checkName (owner name : String) : Except Flaw Unit :=
  if Name.isIdentifier name then .ok () else .error (.invalidElementName name owner)

def checkLeaves (owner : String) (leaves : List Leaf) : Except Flaw Unit :=
  leaves.forM fun l => checkName owner l.name

/-- Checks the name of a method and those of its parameters. -/
def checkMethod (service : String) (m : Method) : Except Flaw Unit := do
  checkName service m.name
  checkLeaves (methodKey service m.name) m.params

/-! ## Declarations -/

def TypeEntry.declare (home? : Option String) (index : Nat) (e : TypeEntry) :
    Except Flaw TypeDecl := do
  let name ← fullName home? .type index e.qualifiedName e.name
  checkLeaves name e.members
  return ⟨name, e.doc, e.members⟩

def ServiceEntry.declare (home? : Option String) (index : Nat) (e : ServiceEntry) :
    Except Flaw Service := do
  let name ← fullName home? .service index e.qualifiedName e.name
  e.methods.forM (checkMethod name)
  return ⟨name, e.doc, e.methods⟩

/-- What the document declares, given the namespace of its bare names. -/
def declare (m : Metadata) (home? : Option String) : Except Flaw Interface := do
  let types ← m.allTypes.zipIdx.mapM fun (e, i) => e.declare home? i
  let services ← m.services.zipIdx.mapM fun (e, i) => e.declare home? i
  return ⟨types, services⟩

/-- What the document declares under full names, or its first flaw. -/
def interface (m : Metadata) (scopes : List String) : Except Flaw Interface := do
  m.checkNamespace
  m.declare (m.home? scopes)

/-- The namespaces passed over, unless resolution stops before it looks for one. -/
def notices (resource : String) (m : Metadata) (scopes : List String) : List Notice :=
  match m.checkNamespace with
  | .error _ => []
  | .ok _ => (m.ignored scopes).map fun c => .ignoredNamespace resource c.1 c.2

end Metadata

/-! ## Resources -/

/-- The interface that a resource declares. -/
def Interface.parse (resource : String) (s : Bytes) (settings : Settings) :
    Logged (Except Failure Interface) :=
  match Metadata.read s with
  | .error fault => pure (.error (.malformed resource (.json fault)))
  | .ok m => do
    Logged.tell (m.notices resource settings.namespaceScopes)
    pure ((m.interface settings.namespaceScopes).mapError (.malformed resource))

end InterfaceDocs
