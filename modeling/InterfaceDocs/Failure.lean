import InterfaceDocs.Json.Fault

/-!
# Failures

A `Failure` says why a resource, or the whole catalogue, could not be had; `Failure.message` is its
wording.  Failures to get hold of the bytes of a resource (`isReadFailure`) are told apart from
failures of its content.
-/

namespace InterfaceDocs

/-! ## Causes -/

/-- Which of the two kinds of entry a message is about. -/
inductive EntryKind
  | type
  | service
deriving DecidableEq, Repr

/-- What is wrong with the content of a resource. -/
inductive Flaw
  | json (fault : Json.Fault)
  | invalidNamespace (name : String)
  /-- An entry, by its place, that has no name at all. -/
  | nameless (kind : EntryKind) (index : Nat)
  | invalidName (kind : EntryKind) (name : String)
  | invalidElementName (name owner : String)
  /-- A flaw in the words of a store of the host's own. -/
  | reported (reason : String)
deriving DecidableEq, Repr

inductive Failure
  | notFound (resource : String)
  | malformed (resource : String) (flaw : Flaw)
  | duplicateElement (resource name : String)
  | nothingFound (location : String)
  | tooLarge (resource : String) (limit : Nat)
  | unreadable (resource cause : String)
deriving DecidableEq, Repr

/-! ## Wording -/

def EntryKind.label : EntryKind → String
  | type => "type"
  | service => "service"

def Flaw.message : Flaw → String
  | json fault => fault.message
  | invalidNamespace name => "invalid namespace `" ++ name ++ "`"
  | nameless kind index =>
    kind.label ++ " entry " ++ toString index ++ " has neither `qualifiedName` nor `name`"
  | invalidName kind name => "invalid " ++ kind.label ++ " name `" ++ name ++ "`"
  | invalidElementName name owner =>
    "invalid element name `" ++ name ++ "` in `" ++ owner ++ "`"
  | reported reason => reason

namespace Failure

def message : Failure → String
  | notFound resource => "resource not found: " ++ resource
  | malformed resource flaw => "malformed metadata in " ++ resource ++ ": " ++ flaw.message
  | duplicateElement resource name => "duplicate element " ++ name ++ " in " ++ resource
  | nothingFound location => "no documentation resources found under " ++ location
  | tooLarge resource limit =>
    "resource " ++ resource ++ " exceeds the " ++ toString limit ++ " byte limit"
  | unreadable resource cause => "failed to read " ++ resource ++ ": " ++ cause

/-- Whether the bytes could not be had, as opposed to bytes with a fault in them. -/
def isReadFailure : Failure → Bool
  | notFound _ | tooLarge _ _ | unreadable _ _ => true
  | malformed _ _ | duplicateElement _ _ | nothingFound _ => false

end Failure

end InterfaceDocs
