import InterfaceDocs.Json.Record
import InterfaceDocs.Interface

/-!
# Metadata

`Metadata` is what a resource says before names are resolved.  Two layouts write it: in one, types and
services carry a full name; in the other they carry a bare name, sorted by kind of type, and the
document declares the namespace, for one or for several languages.  A document may mix them.

In JSON there is one shape for each kind of record.  Members may be called fields, methods functions
and parameters arguments.  The labels are what messages call the records.
-/

namespace InterfaceDocs

/-! ## Entries and documents -/

namespace Metadata

/-- A type as written; the full name, if there is one, counts before the bare name. -/
structure TypeEntry where
  qualifiedName : Option String
  name : Option String
  doc : Option String
  members : List Leaf
deriving DecidableEq, Repr

/-- A service as written. -/
structure ServiceEntry where
  qualifiedName : Option String
  name : Option String
  doc : Option String
  methods : List Method
deriving DecidableEq, Repr

end Metadata

open Metadata in
/-- A document as written. -/
structure Metadata where
  /-- The namespace of all bare names; an empty one stands for none. -/
  commonNamespace : Option String
  /-- Namespaces by the scope, most often a language, that they are for. -/
  namespaces : StringMap
  types : List TypeEntry
  enums : List TypeEntry
  structs : List TypeEntry
  exceptions : List TypeEntry
  typedefs : List TypeEntry
  services : List ServiceEntry

namespace Metadata

/-- Types of all kinds, in the order in which they are declared in an interface. -/
def allTypes (m : Metadata) : List TypeEntry :=
  m.types ++ m.enums ++ m.structs ++ m.exceptions ++ m.typedefs

open Json

/-! ## Fields -/

variable {σ : Type}

/-- A field that holds a string or null. -/
def textField (name : String) (set : Option String → σ → σ) : RecordField σ :=
  ⟨name, none, .optional, set <$> optionalText⟩

/-- A field that holds a string and has to be there. -/
def nameField (set : String → σ → σ) : RecordField σ := ⟨"name", none, .required, set <$> text⟩

/-- A field that holds a list, empty by default. -/
def listField {α : Type} (name : String) (item : Reader α) (set : List α → σ → σ) : RecordField σ :=
  ⟨name, none, .defaulted, set <$> list item⟩

/-! ## Shapes -/

def leafShape : Shape Leaf where
  label := "struct RawNamed"
  fields := [
    nameField fun t x => { x with name := t },
    textField "doc" fun t x => { x with doc := t }]
  empty := ⟨"", none⟩

def methodShape : Shape Method where
  label := "struct RawMethod"
  fields := [
    nameField fun t x => { x with name := t },
    textField "doc" fun t x => { x with doc := t },
    ⟨"params", some "arguments", .defaulted,
      (fun ls x => { x with params := ls }) <$> list leafShape.reader⟩]
  empty := ⟨"", none, []⟩

def typeShape : Shape TypeEntry where
  label := "struct RawType"
  fields := [
    textField "qualifiedName" fun t x => { x with qualifiedName := t },
    textField "name" fun t x => { x with name := t },
    textField "doc" fun t x => { x with doc := t },
    ⟨"members", some "fields", .defaulted,
      (fun ls x => { x with members := ls }) <$> list leafShape.reader⟩]
  empty := ⟨none, none, none, []⟩

def serviceShape : Shape ServiceEntry where
  label := "struct RawService"
  fields := [
    textField "qualifiedName" fun t x => { x with qualifiedName := t },
    textField "name" fun t x => { x with name := t },
    textField "doc" fun t x => { x with doc := t },
    ⟨"methods", some "functions", .required,
      (fun ms x => { x with methods := ms }) <$> list methodShape.reader⟩]
  empty := ⟨none, none, none, []⟩

def documentShape : Shape Metadata where
  label := "struct RawDocument"
  fields := [
    textField "namespace" fun t x => { x with commonNamespace := t },
    ⟨"namespaces", none, .defaulted, (fun m x => { x with namespaces := m }) <$> dictionary⟩,
    listField "types" typeShape.reader fun ts x => { x with types := ts },
    listField "enums" typeShape.reader fun ts x => { x with enums := ts },
    listField "structs" typeShape.reader fun ts x => { x with structs := ts },
    listField "exceptions" typeShape.reader fun ts x => { x with exceptions := ts },
    listField "typedefs" typeShape.reader fun ts x => { x with typedefs := ts },
    listField "services" serviceShape.reader fun ss x => { x with services := ss }]
  empty := ⟨none, ∅, [], [], [], [], [], []⟩

/-- Reads a whole metadata document. -/
def read (s : Bytes) : Except Fault Metadata := readWhole documentShape.reader s

end Metadata

end InterfaceDocs
