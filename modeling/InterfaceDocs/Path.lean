import InterfaceDocs.Text.Pieces

/-!
# Paths

A path as written is a text with slashes.  `Path.components` gives its pieces, the empty ones between
doubled slashes included; `Path.join` puts one path behind another without looking at either.
-/

namespace InterfaceDocs.Path

/-! ## Algorithm -/

/-- The pieces between the slashes. -/
def components (t : String) : List String := (Text.pieces '/' t.toList).map String.ofList

/-- A component that stays where it is. -/
def isStay (c : String) : Bool := c = "" || c = "."

/-- The components that lead somewhere. -/
def steps (t : String) : List String := (components t).filter fun c => !isStay c

/-- Components joined by slashes. -/
def ofSteps (cs : List String) : String := "/".intercalate cs

/-- A path behind another: exactly one slash is put between them, unless the first one is empty or
ends in one. -/
def join (first second : String) : String :=
  if first = "" ∨ first.toList.getLast? = some '/' then first ++ second
  else first ++ "/" ++ second

/-- The text without slashes at its start and end. -/
def trimSlashes (t : String) : String :=
  String.ofList ((t.toList.dropWhile (· = '/')).reverse.dropWhile (· = '/')).reverse

/-- Whether the text starts with a slash. -/
def isAbsolute (t : String) : Bool := t.toList.head? = some '/'

/-- The ending of the names of resources. -/
def resourceSuffix : String := ".json"

def hasSuffix (suffix t : String) : Bool := suffix.toList.isSuffixOf t.toList

def startsWith (start t : String) : Bool := start.toList.isPrefixOf t.toList

/-! ## Examples -/

example : components "r//d/" = ["r", "", "d", ""] := by decide +kernel
example : join "r/" "d" = "r/d" ∧ join "" "d" = "d" ∧ join "r" "" = "r/" := by decide +kernel
example : trimSlashes "//a/b/" = "a/b" := by decide +kernel

end InterfaceDocs.Path
