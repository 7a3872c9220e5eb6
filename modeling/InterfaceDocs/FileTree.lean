import Std.Data.ExtTreeMap
import Std.Data.ExtTreeSet
import InterfaceDocs.Text.Bytes
import InterfaceDocs.Path

/-!
# File trees

A `FileTree` holds what is below a working directory: files by the way to them, and directories.
Whatever lies above a file or a directory is a directory too.  `FileTree.locate` follows a path as
it is written, component by component: every step starts from a directory, `..` goes back up, and
nothing above the working directory is in sight.

A tree is simpler than a file system in three ways:

* Its top stands for the working directory and for the root directory as well.  An absolute path
  starts at the top like a relative one, since the empty component before its slash stays there.
* The names of files and directories are texts; there are no names that are not UTF-8.
* There are files and directories, and no links.
-/

namespace InterfaceDocs

/-- The way from the working directory, one name after another. -/
abbrev Route := List String

structure FileTree where
  files : Std.ExtTreeMap Route Bytes
  /-- Directories that are there whether or not they hold anything. -/
  directories : Std.ExtTreeSet Route

namespace FileTree

/-! ## Algorithm -/

def empty : FileTree := ⟨∅, ∅⟩

/-- The working directory, a directory of its own, or one above a directory or a file. -/
def isDirectory (t : FileTree) (r : Route) : Bool :=
  r = [] || t.directories.toList.any (r.isPrefixOf ·) ||
    t.files.keys.any fun f => r.isPrefixOf f && r ≠ f

/-- Follows the components of a path from a directory. -/
def walk (t : FileTree) (here : Route) : List String → Option Route
  | [] => some here
  | c :: cs =>
    if !t.isDirectory here then none
    else if Path.isStay c then t.walk here cs
    else if c = ".." then
      if here = [] then none else t.walk here.dropLast cs
    else t.walk (here ++ [c]) cs

/-- Where a path leads; what is there need not exist. -/
def locate (t : FileTree) (path : String) : Option Route :=
  if path = "" then none else t.walk [] (Path.components path)

/-- The file that a path leads to. -/
def fileAt? (t : FileTree) (path : String) : Option Bytes :=
  (t.locate path).bind fun r => t.files[r]?

/-- The directory that a path leads to. -/
def directoryAt? (t : FileTree) (path : String) : Option Route :=
  (t.locate path).filter t.isDirectory

/-- The ways from a directory to the files below it. -/
def filesBelow (t : FileTree) (r : Route) : List Route :=
  t.files.keys.filterMap fun f => if r.isPrefixOf f && r ≠ f then some (f.drop r.length) else none

/-- Writes a file, and with it the directories above it. -/
def write (t : FileTree) (r : Route) (content : Bytes) : FileTree :=
  { t with files := t.files.insert r content }

def makeDirectory (t : FileTree) (r : Route) : FileTree :=
  { t with directories := t.directories.insert r }

/-- Removes a file; the directory that holds it stays. -/
def remove (t : FileTree) (r : Route) : FileTree where
  files := t.files.erase r
  directories := t.directories.insert r.dropLast

/-- A tree of directories and files, given by their paths. -/
def ofPaths (directories : List String) (files : List (String × Bytes)) : FileTree :=
  files.foldl (fun t f => t.write (Path.steps f.1) f.2)
    (directories.foldl (fun t d => t.makeDirectory (Path.steps d)) empty)

end FileTree

end InterfaceDocs
