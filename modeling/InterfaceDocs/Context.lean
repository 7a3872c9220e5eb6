import InterfaceDocs.Failure
import InterfaceDocs.Interface

/-!
# Settings and notices

What all steps from a store to a report have in common.  `Settings` are what discovery, reading and
name resolution go by.  What happens besides an answer is told in notices: `Logged α` is an answer
together with the notices that were given on the way, in order; notices of a sequence of steps stand
one after the other.
-/

namespace InterfaceDocs

/-! ## Settings -/

structure Settings where
  /-- The directory, below each root, that holds the resources. -/
  resourceDir : String
  /-- The scopes whose namespace is preferred, the best first. -/
  namespaceScopes : List String
  /-- The largest size of a resource. -/
  maxResourceBytes : Nat
deriving DecidableEq, Repr

namespace Settings

def standard : Settings where
  resourceDir := "META-INF/idldoc/thrift"
  namespaceScopes := ["java", "*"]
  maxResourceBytes := 16 * 1024 * 1024

instance : Inhabited Settings := ⟨standard⟩

end Settings

/-- The largest number that a size may be: the last one of 64 bits, and so of a counter of bytes. -/
def Command.maxSize : Nat := Nat.pow 2 64 - 1

/-! ## Notices -/

/-- How much a notice matters, the most severe first. -/
inductive Level
  | error
  | warn
  | info
  | debug
  | trace
deriving DecidableEq, Repr

inductive Notice
  /-- A declared namespace is no path and is passed over. -/
  | ignoredNamespace (resource scope name : String)
  | undocumented (resource : String) (kind : ElementKind) (key : String)
  | noDirectory (directory : String)
  /-- A resource has been taken into the catalogue. -/
  | taken (resource : String) (size : Nat)
  | alreadyDefined (resource key : String)
  | skipping (resource : String) (failure : Failure)
  /-- A catalogue is complete. -/
  | indexed (size loaded failed : Nat)
  | noDocumentation (key : String)
deriving DecidableEq, Repr

namespace Level

def label : Level → String
  | error => "ERROR"
  | warn => "WARN"
  | info => "INFO"
  | debug => "DEBUG"
  | trace => "TRACE"

def rank : Level → Nat
  | error => 0
  | warn => 1
  | info => 2
  | debug => 3
  | trace => 4

end Level

namespace Notice

def level : Notice → Level
  | skipping _ _ | noDocumentation _ => .warn
  | indexed _ _ _ => .info
  | ignoredNamespace _ _ _ | noDirectory _ | taken _ _ | alreadyDefined _ _ => .debug
  | undocumented _ _ _ => .trace

def message : Notice → String
  | ignoredNamespace resource scope name =>
    resource ++ ": ignoring `" ++ scope ++ "` namespace `" ++ name ++ "`"
  | undocumented resource kind key => resource ++ ": undocumented " ++ kind.label ++ " " ++ key
  | noDirectory directory => "no resource directory at " ++ directory
  | taken resource size => resource ++ ": " ++ toString size ++ " docstrings"
  | alreadyDefined resource key =>
    resource ++ ": " ++ key ++ " already defined by an earlier resource"
  | skipping resource failure => "skipping " ++ resource ++ ": " ++ failure.message
  | indexed size loaded failed =>
    "indexed " ++ toString size ++ " docstrings from " ++ toString loaded ++ " resources ("
      ++ toString failed ++ " failed)"
  | noDocumentation key => "no documentation for " ++ key

/-- Whether a notice is shown when everything up to the given level is. -/
def shownAt (n : Notice) (threshold : Level) : Bool := n.level.rank ≤ threshold.rank

end Notice

/-! ## Answers with notices -/

structure Logged (α : Type) where
  value : α
  log : List Notice

namespace Logged

variable {α β : Type}

@[ext] theorem ext {x y : Logged α} (hv : x.value = y.value) (hl : x.log = y.log) : x = y := by
  cases x; cases y; congr

instance : Monad Logged where
  pure a := ⟨a, []⟩
  bind x f := ⟨(f x.value).value, x.log ++ (f x.value).log⟩

@[simp] theorem value_pure (a : α) : (pure a : Logged α).value = a := rfl
@[simp] theorem log_pure (a : α) : (pure a : Logged α).log = [] := rfl

@[simp] theorem value_bind (x : Logged α) (f : α → Logged β) :
    (x >>= f).value = (f x.value).value := rfl

@[simp] theorem log_bind (x : Logged α) (f : α → Logged β) :
    (x >>= f).log = x.log ++ (f x.value).log := rfl

instance : LawfulMonad Logged := LawfulMonad.mk' Logged
  (fun x => Logged.ext rfl (List.append_nil x.log))
  (fun _ _ => Logged.ext rfl (List.nil_append _))
  (fun _ _ _ => Logged.ext rfl (List.append_assoc ..))

@[simp] theorem value_map (f : α → β) (x : Logged α) : (f <$> x).value = f x.value := rfl

/-- Steps for the elements of a list give an answer for each of them. -/
theorem value_mapM (f : α → Logged β) (l : List α) :
    (l.mapM f).value = l.map fun a => (f a).value := by
  induction l with
  | nil => rfl
  | cons a l ih =>
    rw [List.mapM_cons, value_bind, value_bind, value_pure, ih, List.map_cons]

/-- What is told on the way is told for one element after the other. -/
theorem log_mapM (f : α → Logged β) (l : List α) : (l.mapM f).log = l.flatMap fun a => (f a).log := by
  induction l with
  | nil => rfl
  | cons a l ih =>
    rw [List.mapM_cons, log_bind, log_bind, log_pure, ih, List.append_nil, List.flatMap_cons]

/-- Gives notices. -/
def tell (notices : List Notice) : Logged Unit := ⟨(), notices⟩

@[simp] theorem log_tell (notices : List Notice) : (tell notices).log = notices := rfl

end Logged

end InterfaceDocs
