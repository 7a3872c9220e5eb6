import InterfaceDocs.Context

/-!
# Command-line arguments

Arguments are options and roots in any order.  `Options.ofArguments?` reads them: long options with
their value behind an equals sign or in the next argument, short ones also in clusters, and only
roots after `--`.  It refuses unknown options, values that are missing or not wanted, options that
may be given once and are given twice, and empty roots.
-/

namespace InterfaceDocs.Command

/-! ## Options by name -/

inductive OptionName
  | resource
  | key
  | format
  | resourceDir
  | namespaceScope
  | maxBytes
  | strict
  | verbose
  | quiet
deriving DecidableEq, Repr

namespace OptionName

def all : List OptionName :=
  [resource, key, format, resourceDir, namespaceScope, maxBytes, strict, verbose, quiet]

def long : OptionName → String
  | resource => "resource"
  | key => "key"
  | format => "format"
  | resourceDir => "resource-dir"
  | namespaceScope => "namespace-scope"
  | maxBytes => "max-bytes"
  | strict => "strict"
  | verbose => "verbose"
  | quiet => "quiet"

def short? : OptionName → Option Char
  | resource => some 'r'
  | key => some 'k'
  | format => some 'f'
  | verbose => some 'v'
  | quiet => some 'q'
  | resourceDir | namespaceScope | maxBytes | strict => none

def takesValue : OptionName → Bool
  | strict | verbose | quiet => false
  | _ => true

/-- Whether the option may be given more than once. -/
def repeats : OptionName → Bool
  | key | namespaceScope => true
  | _ => false

def ofLong? (name : String) : Option OptionName := all.find? (·.long = name)

def ofShort? (c : Char) : Option OptionName := all.find? (·.short? = some c)

end OptionName

/-! ## Arguments one by one -/

/-- What one or two arguments say. -/
inductive Item
  | root (path : String)
  | flag (name : OptionName)
  | setting (name : OptionName) (value : String)
deriving DecidableEq, Repr

/-- Whether an argument can be the value of the option before it. -/
def isValue (a : String) : Bool := a.toList.head? ≠ some '-' || a = "-"

/-- A cluster of short options: what they say, and the last one if it still wants a value. -/
def readCluster : List Char → Option (List Item × Option OptionName)
  | [] => some ([], none)
  | c :: cs => do
    let name ← OptionName.ofShort? c
    if name.takesValue then
      match cs with
      | [] => pure ([], some name)
      | '=' :: value => pure ([.setting name (String.ofList value)], none)
      | value => pure ([.setting name (String.ofList value)], none)
    else
      let (items, pending) ← readCluster cs
      pure (.flag name :: items, pending)

/-- A long option without its hyphens: what it says, or that it still wants a value. -/
def readLong (cs : List Char) : Option (List Item × Option OptionName) := do
  let name ← OptionName.ofLong? (String.ofList (cs.takeWhile (· ≠ '=')))
  match cs.dropWhile (· ≠ '='), name.takesValue with
  | [], true => pure ([], some name)
  | [], false => pure ([.flag name], none)
  | _ :: value, true => pure ([.setting name (String.ofList value)], none)
  | _ :: _, false => none

/-- An argument that is no value of an option before it. -/
def readArgument (a : String) : Option (List Item × Option OptionName) :=
  match a.toList with
  | '-' :: '-' :: name => readLong name
  | ['-'] => some ([.root a], none)
  | '-' :: cluster => readCluster cluster
  | _ => some ([.root a], none)

/-- What all arguments say, if the option before them still wants a value or not. -/
def readArguments : Option OptionName → List String → Option (List Item)
  | none, [] => some []
  | some _, [] => none
  | some name, a :: rest =>
    if isValue a then (readArguments none rest).map (.setting name a :: ·) else none
  | none, a :: rest =>
    if a = "--" then some (rest.map .root)
    else do
      let (items, pending) ← readArgument a
      let more ← readArguments pending rest
      pure (items ++ more)

/-! ## All together -/

/-- How many notices are shown. -/
inductive Verbosity
  | quiet
  | normal
  | verbose
deriving DecidableEq, Repr

def Verbosity.level : Verbosity → Level
  | quiet => .warn
  | normal => .info
  | verbose => .debug

structure Options where
  roots : List String
  resource : Option String
  keys : List String
  format : String
  settings : Settings
  strict : Bool
  verbosity : Verbosity
deriving DecidableEq, Repr

/-- The name that an item is given under, for options. -/
def Item.name? : Item → Option OptionName
  | .root _ => none
  | .flag name => some name
  | .setting name _ => some name

def Item.root? : Item → Option String
  | .root path => some path
  | _ => none

/-- All values of an option. -/
def valuesOf (items : List Item) (name : OptionName) : List String :=
  items.filterMap fun
    | .setting n value => if n = name then some value else none
    | _ => none

def isGiven (items : List Item) (name : OptionName) : Bool := items.any (·.name? = some name)

/-- Whether every option that may be given once is not given twice. -/
def noneTwice (items : List Item) : Bool :=
  OptionName.all.all fun name => name.repeats || (items.filter (·.name? = some name)).length ≤ 1

/-- A size in decimal digits, with or without a plus sign. -/
def size? (t : String) : Option Nat :=
  let ds := match t.toList with
    | '+' :: ds => ds
    | ds => ds
  if ds ≠ [] && ds.all Char.isDigit then
    let n := ds.foldl (fun n d => n * 10 + (d.toNat - '0'.toNat)) 0
    if n ≤ maxSize then some n else none
  else none

namespace Options

/-- The options that all items together make, if they go together. -/
def ofItems? (items : List Item) : Option Options := do
  let roots := items.filterMap Item.root?
  let limit ← match (valuesOf items .maxBytes).head? with
    | some value => size? value
    | none => some Settings.standard.maxResourceBytes
  let scopes := valuesOf items .namespaceScope
  let quiet := isGiven items .quiet
  let verbose := isGiven items .verbose
  if !noneTwice items || (quiet && verbose) || roots.any (· = "") then none
  else
    pure {
      roots := if roots = [] then ["."] else roots
      resource := (valuesOf items .resource).head?
      keys := valuesOf items .key
      format := (valuesOf items .format).head?.getD "json"
      settings := {
        resourceDir := (valuesOf items .resourceDir).head?.getD Settings.standard.resourceDir
        namespaceScopes := if scopes = [] then Settings.standard.namespaceScopes else scopes
        maxResourceBytes := limit }
      strict := isGiven items .strict
      verbosity := if quiet then .quiet else if verbose then .verbose else .normal }

/-- The options that the arguments give, unless they are refused. -/
def ofArguments? (args : List String) : Option Options := do
  let items ← readArguments none args
  ofItems? items

end Options

end InterfaceDocs.Command
