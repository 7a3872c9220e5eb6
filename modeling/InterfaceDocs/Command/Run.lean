import InterfaceDocs.Command.Arguments
import InterfaceDocs.Store.SearchPath
import InterfaceDocs.Catalogue
import InterfaceDocs.Report.Format

/-!
# The command

`Options.run` is the whole command as a function of the file tree: it loads one resource or a
catalogue, shows a report or the docstrings of single keys, and at last looks at failures if it is
to be strict.  What has been shown by then stays shown.
-/

namespace InterfaceDocs.Command

/-! ## Trouble -/

/-- Why the command ends without success. -/
inductive Trouble
  | loading (resource : String) (failure : Failure)
  | indexing (failure : Failure)
  | unknownFormat (name : String)
  | keysMissing (count : Nat)
  | resourcesFailed (count : Nat)
deriving DecidableEq, Repr

namespace Trouble

def headline : Trouble → String
  | loading resource _ => "failed to load " ++ resource
  | indexing _ => "failed to build documentation index"
  | unknownFormat name => Report.unknownFormatMessage name
  | keysMissing count => toString count ++ " key(s) not documented"
  | resourcesFailed count => toString count ++ " resource(s) failed to load"

def cause? : Trouble → Option Failure
  | loading _ failure | indexing failure => some failure
  | unknownFormat _ | keysMissing _ | resourcesFailed _ => none

/-- A text with every line set in. -/
def indented (t : String) : String :=
  "\n".intercalate ((Text.pieces '\n' t.toList).map fun l => "    " ++ String.ofList l)

/-- What is said of it at the end. -/
def report (x : Trouble) : String :=
  let cause := match x.cause? with
    | some failure => "\n\nCaused by:\n" ++ indented failure.message
    | none => ""
  "Error: " ++ x.headline ++ cause ++ "\n"

end Trouble

/-! ## Outcomes -/

/-- What is printed, and the trouble at the end if there is any. -/
structure Outcome where
  stdout : String
  trouble : Option Trouble
deriving DecidableEq, Repr

def Outcome.status (o : Outcome) : Nat := if o.trouble.isSome then 1 else 0

/-- The status of arguments that are refused. -/
def refusedStatus : Nat := 2

namespace Options

/-! ## Loading -/

def store (o : Options) (t : FileTree) : Store := (SearchPath.ofRoots o.roots o.settings).store t

/-- The report of one resource, or of the catalogue. -/
def load (o : Options) (t : FileTree) : Logged (Except Trouble Report) :=
  match o.resource with
  | some resource => do
    let result ← (o.store t).docsOf o.settings resource
    pure (match result with
      | .ok docs => .ok ⟨docs, []⟩
      | .error failure => .error (.loading resource failure))
  | none => do
    let result ← (o.store t).catalogue o.settings
    pure (match result with
      | .ok c => .ok ⟨c.docs, c.failures⟩
      | .error failure => .error (.indexing failure))

/-! ## Showing -/

/-- The docstrings of single keys, each on lines of its own. -/
def showKeys (keys : List String) (docs : Docs) : Logged Outcome := do
  let missing := keys.filter (· ∉ docs)
  Logged.tell (missing.map .noDocumentation)
  pure {
    stdout := String.join (keys.filterMap fun k => docs[k]?.map (· ++ "\n"))
    trouble := if missing = [] then none else some (.keysMissing missing.length) }

/-- The whole report in the format of the given name. -/
def showReport (format : String) (r : Report) : Outcome :=
  match Report.Format.ofName? format with
  | some f => ⟨r.render f, none⟩
  | none => ⟨"", some (.unknownFormat format)⟩

/-- The trouble of a strict run with failures. -/
def strictTrouble? (o : Options) (r : Report) : Option Trouble :=
  if o.strict && !r.failures.isEmpty then some (.resourcesFailed r.failures.length) else none

/-- Shows what was asked for of a report. -/
def present (o : Options) (r : Report) : Logged Outcome := do
  let shown ← if o.keys = [] then pure (showReport o.format r) else showKeys o.keys r.docs
  pure { shown with trouble := shown.trouble.or (o.strictTrouble? r) }

/-! ## Running -/

def run (o : Options) (t : FileTree) : Logged Outcome := do
  match ← o.load t with
  | .error trouble => pure ⟨"", some trouble⟩
  | .ok r => o.present r

/-- The notices of a run that are shown. -/
def shownLog (o : Options) (log : List Notice) : List Notice :=
  log.filter (·.shownAt o.verbosity.level)

end Options

end InterfaceDocs.Command
