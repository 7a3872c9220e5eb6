import InterfaceDocs.Text.Pieces

/-!
# Interfaces

An identifier is an ASCII letter or underscore followed by ASCII letters, digits and underscores; a
path is one or more identifiers joined by points.  The alphabet is ASCII by rule: no other letter
may stand in a name.

An `Interface` is what one resource declares, under full names: types with their members, and
services with their methods and the parameters of these.  Everything declared may carry a docstring;
an empty docstring is not the same as none.

`Interface.elements` lists everything that can carry a docstring, each under its key:

    ns.Type        ns.Type.member
    ns.Service     ns.Service#method     ns.Service#method.param

`splitMethodKey?` finds the service and the method in the key of a method or a parameter.
-/

namespace InterfaceDocs

/-! ## Names -/

namespace Name

def startsIdentifier (c : Char) : Bool := c.isAlpha || c = '_'

def continuesIdentifier (c : Char) : Bool := c.isAlphanum || c = '_'

/-- Whether the characters form one identifier. -/
def isIdentifierChars : List Char → Bool
  | [] => false
  | c :: cs => startsIdentifier c && cs.all continuesIdentifier

def isIdentifier (t : String) : Bool := isIdentifierChars t.toList

/-- Whether the text is identifiers joined by points. -/
def isPath (t : String) : Bool := (Text.pieces '.' t.toList).all isIdentifierChars

end Name

/-! ## Declarations -/

/-- A declaration without parts of its own: an enum value, a struct field or a parameter. -/
structure Leaf where
  name : String
  doc : Option String
deriving DecidableEq, Repr

structure Method where
  name : String
  doc : Option String
  params : List Leaf
deriving DecidableEq, Repr

/-- A type under its full name; enums and structs share this shape. -/
structure TypeDecl where
  name : String
  doc : Option String
  members : List Leaf
deriving DecidableEq, Repr

/-- A service under its full name. -/
structure Service where
  name : String
  doc : Option String
  methods : List Method
deriving DecidableEq, Repr

/-- What one resource declares, in the order of declaration. -/
structure Interface where
  types : List TypeDecl
  services : List Service
deriving DecidableEq, Repr

/-! ## Keys -/

def memberKey (owner name : String) : String := owner ++ "." ++ name

def methodKey (service name : String) : String := service ++ "#" ++ name

def paramKey (method name : String) : String := method ++ "." ++ name

/-- The service and the method that a key names: what stands before the first `#`, and what stands
between it and the next point. -/
def splitMethodKey? (key : String) : Option (String × String) :=
  match key.toList.span (· ≠ '#') with
  | (_, []) => none
  | (service, _ :: rest) =>
    some (String.ofList service, String.ofList (rest.takeWhile (· ≠ '.')))

/-! ## Elements -/

inductive ElementKind
  | type
  | member
  | service
  | method
  | param
deriving DecidableEq, Repr

namespace ElementKind

def label : ElementKind → String
  | type => "Type"
  | member => "Member"
  | service => "Service"
  | method => "Method"
  | param => "Param"

end ElementKind

/-- Something that can carry a docstring. -/
structure Element where
  key : String
  kind : ElementKind
  doc : Option String
deriving DecidableEq, Repr

namespace TypeDecl

/-- A type and then its members. -/
def elements (t : TypeDecl) : List Element :=
  ⟨t.name, .type, t.doc⟩ :: t.members.map fun m => ⟨memberKey t.name m.name, .member, m.doc⟩

end TypeDecl

namespace Method

/-- A method of a service and then its parameters. -/
def elements (service : String) (m : Method) : List Element :=
  let key := methodKey service m.name
  ⟨key, .method, m.doc⟩ :: m.params.map fun p => ⟨paramKey key p.name, .param, p.doc⟩

end Method

namespace Service

/-- A service and then its methods. -/
def elements (s : Service) : List Element :=
  ⟨s.name, .service, s.doc⟩ :: s.methods.flatMap (Method.elements s.name)

end Service

namespace Interface

/-- Everything that can carry a docstring, in the order of declaration. -/
def elements (i : Interface) : List Element :=
  i.types.flatMap TypeDecl.elements ++ i.services.flatMap Service.elements

end Interface

/-! ## Examples -/

example : Name.isPath "a.b_1" = true ∧ Name.isPath "a..b" = false ∧ Name.isPath "" = false := by
  decide +kernel
example : Name.isIdentifier "1a" = false ∧ Name.isIdentifier "é" = false := by decide +kernel
example : splitMethodKey? "a.S#m.p" = some ("a.S", "m") := by decide +kernel
example : splitMethodKey? "a.T.x" = none := by decide +kernel

end InterfaceDocs
