import Std.Data.ExtTreeMap
import InterfaceDocs.Text.Classes
import InterfaceDocs.Text.Lowercase

/-!
# Anchors of headings

The anchor of a heading is the slug of its title; where several headings have the same slug, the
second one and those after it are numbered.

    the anchor of the i-th title is its slug if no earlier title has that slug,
    else the slug, a hyphen and the number of earlier titles with it
-/

namespace InterfaceDocs

/-! ## Slugs -/

/-- What a small letter or another character of a title becomes: spaces become hyphens, and all but
hyphens, letters and digits are left out. -/
def slugChar? (c : Char) : Option Char :=
  if c = ' ' then some '-'
  else if c = '-' || Text.isAlphanumeric c then some c
  else none

/-- The slug of a title, in small letters. -/
def slug (title : String) : String :=
  String.ofList ((Text.lowercase title.toList).filterMap slugChar?)

/-! ## Numbering -/

/-- How many headings so far have each slug. -/
abbrev Anchors := Std.ExtTreeMap String Nat

namespace Anchors

/-- The anchor of one more heading with a slug that so many have already. -/
def number (slug : String) (earlier : Nat) : String :=
  if earlier = 0 then slug else slug ++ "-" ++ toString earlier

/-- The anchor of the next heading. -/
def claim (a : Anchors) (title : String) : String × Anchors :=
  let s := slug title
  let earlier := a.getD s 0
  (number s earlier, a.insert s (earlier + 1))

/-- The anchors of headings one after the other. -/
def claimAll (a : Anchors) : List String → List String
  | [] => []
  | title :: titles =>
    let (anchor, a) := a.claim title
    anchor :: claimAll a titles

end Anchors

/-- The anchors of the headings of a document. -/
def anchors (titles : List String) : List String := Anchors.claimAll ∅ titles

/-! ## Links -/

/-- An item of a table of contents. -/
def tocItem (title anchor : String) : String := "* [" ++ title ++ "](#" ++ anchor ++ ")"

end InterfaceDocs
