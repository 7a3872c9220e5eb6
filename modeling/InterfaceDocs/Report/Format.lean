import InterfaceDocs.Docs.Collect
import InterfaceDocs.Json.Value
import InterfaceDocs.Report.Anchor

/-!
# Reports

A `Report` is what is shown of a catalogue or of one resource: docstrings by key, in the order of
the keys, and the resources that failed.  It is shown in one of two formats:

* In JSON the report is one object: the docstrings as an object by key, and the failures as a list of
  resources with the wording of their failures.
* In Markdown it is a page: a table of contents with a link for each key, a section for each key, and
  a list of the resources that failed.  The anchors of the links are numbered after those of the
  headings of the page, which come first.
-/

namespace InterfaceDocs

structure Report where
  docs : Docs
  failures : List (String × Failure)

namespace Report

/-! ## JSON -/

/-- A resource that failed. -/
def failureValue (f : String × Failure) : Json.Value :=
  .object [("resource", .text f.1), ("error", .text f.2.message)]

def value (r : Report) : Json.Value :=
  .object [
    ("docstrings", .object (r.docs.toList.map fun e => (e.1, .text e.2))),
    ("failures", .list (r.failures.map failureValue))]

/-- The report as a JSON document on lines of its own. -/
def json (r : Report) : String := r.value.pretty ++ "\n"

/-! ## Markdown: the parts -/

def titleHeading : String := "Documentation index"

def contentsHeading : String := "Index"

def failuresHeading : String := "Failed resources"

/-- The anchors of the links, one for each key. -/
def linkAnchors (keys : List String) : List String :=
  (anchors (titleHeading :: contentsHeading :: keys)).drop 2

/-- The table of contents, if there is anything in it. -/
def contents (keys : List String) : String :=
  if keys = [] then ""
  else
    "## " ++ contentsHeading ++ "\n\n"
      ++ String.join ((keys.zip (linkAnchors keys)).map fun k => tocItem k.1 k.2 ++ "\n") ++ "\n"

/-- The line that says which method a key belongs to. -/
def methodLines (key : String) : List String :=
  match splitMethodKey? key with
  | some (service, method) => ["_RPC `" ++ method ++ "` of `" ++ service ++ "`_\n"]
  | none => []

/-- The text of a docstring; an empty one has none. -/
def docLines (doc : String) : List String := if doc = "" then [] else [Text.trimEnd doc, ""]

/-- The section of one key. -/
def entrySection (key doc : String) : String :=
  "\n".intercalate (("### " ++ key ++ "\n") :: (methodLines key ++ docLines doc)) ++ "\n"

def failureItem (f : String × Failure) : String := "* `" ++ f.1 ++ "`: " ++ f.2.message ++ "\n"

/-- The list of the resources that failed, if there are any. -/
def failureList (failures : List (String × Failure)) : String :=
  if failures = [] then ""
  else "## " ++ failuresHeading ++ "\n\n" ++ String.join (failures.map failureItem) ++ "\n"

/-! ## Markdown: the page -/

def markdown (r : Report) : String :=
  "# " ++ titleHeading ++ "\n\n" ++ contents r.docs.keys
    ++ String.join (r.docs.toList.map fun e => entrySection e.1 e.2) ++ failureList r.failures

/-! ## Formats -/

inductive Format
  | json
  | markdown
deriving DecidableEq, Repr

namespace Format

/-- The format that a name means. -/
def ofName? (name : String) : Option Format :=
  if name = "json" then some json
  else if name = "markdown" || name = "md" then some markdown
  else none

end Format

/-- The text of a report. -/
def render (r : Report) : Format → String
  | .json => r.json
  | .markdown => r.markdown

/-- What is said of a name that means no format. -/
def unknownFormatMessage (name : String) : String :=
  "unknown format: " ++ name ++ ". Use json or markdown"

end Report

end InterfaceDocs
