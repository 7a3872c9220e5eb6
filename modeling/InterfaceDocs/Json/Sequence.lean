import Std.Data.ExtTreeMap
import InterfaceDocs.Json.Skip

/-!
# Values of one kind

Readers for strings, lists and dictionaries.  A value of another kind is a fault that names what was
found and what was wanted; what was found is read to its end first, so that a fault inside it comes
first.  Lists and objects are both items between an opening and a closing byte with commas between
them, and share `Enclosure.fold`.
-/

namespace InterfaceDocs

/-- Texts by their keys, in the order of the keys. -/
abbrev StringMap := Std.ExtTreeMap String String

namespace Json

open Reader

/-! ## Values of another kind -/

/-- Refuses the value that starts with the byte. -/
def mismatch {α : Type} (wanted : String) (b : UInt8) : Reader α := do
  if b = Ascii.letter 'n' then
    word ("ull".toList.map Ascii.letter)
    fail (.unexpected .null wanted)
  else if b = Ascii.letter 't' then
    word ("rue".toList.map Ascii.letter)
    fail (.unexpected (.boolean true) wanted)
  else if b = Ascii.letter 'f' then
    word ("alse".toList.map Ascii.letter)
    fail (.unexpected (.boolean false) wanted)
  else if startsNumber b then
    let n ← numeral (.endOfInput .value) b
    match n.found with
    | .ok found => fail (.unexpected found wanted)
    | .error fault => fail fault
  else if b = Ascii.quote then
    let t ← textBody
    fail (.unexpected (.text t) wanted)
  else if b = Ascii.openBracket then fail (.unexpected .list wanted)
  else if b = Ascii.openBrace then fail (.unexpected .object wanted)
  else fail .expectedValue

/-! ## Strings -/

def text : Reader String := do
  let b ← nextToken (.endOfInput .value)
  if b = Ascii.quote then textBody else mismatch "a string" b

/-- A string, or null for none. -/
def optionalText : Reader (Option String) := do
  let b ← nextToken (.endOfInput .value)
  if b = Ascii.letter 'n' then
    word ("ull".toList.map Ascii.letter)
    pure none
  else if b = Ascii.quote then
    let t ← textBody
    pure (some t)
  else mismatch "a string" b

/-! ## Items between brackets -/

/-- How a sequence of items ends, and the faults for not getting there. -/
structure Enclosure where
  close : UInt8
  unfinished : Fault
  separator : Fault

namespace Enclosure

variable {σ : Type}

def list : Enclosure := ⟨Ascii.closeBracket, .endOfInput .list, .expectedListSeparator⟩

def object : Enclosure := ⟨Ascii.closeBrace, .endOfInput .object, .expectedObjectSeparator⟩

/-- Whether there is a first item; takes the closing byte if not. -/
def any (e : Enclosure) : Reader Bool := do
  match ← peekToken with
  | none => fail e.unfinished
  | some b =>
    if b = e.close then
      let _ ← next e.unfinished
      pure false
    else pure true

/-- Whether another item follows; takes the comma, or the closing byte if not. -/
def more (e : Enclosure) : Reader Bool := do
  let b ← nextToken e.unfinished
  if b = e.close then pure false
  else if b = Ascii.comma then
    if (← peekToken) = some e.close then fail .trailingComma else pure true
  else fail e.separator

def itemTurn (e : Enclosure) (item : σ → Reader σ) (acc : σ) : Reader (Turn σ σ) := do
  let acc ← item acc
  if ← e.more then pure (.again acc) else pure (.done acc)

theorem strict_more (e : Enclosure) : Strict e.more := (strict_nextToken _).bind _

theorem itemTurn_advances (e : Enclosure) (item : σ → Reader σ) : Advances (e.itemTurn item) :=
  advances_of_strict fun _ => Strict.bind_left _ fun _ => e.strict_more.bind _

/-- Reads items up to the closing byte, each with what the items before it gave. -/
def fold (e : Enclosure) (item : σ → Reader σ) (acc : σ) : Reader σ := do
  if ← e.any then iterate (e.itemTurn item) (e.itemTurn_advances item) acc else pure acc

end Enclosure

/-! ## Lists and dictionaries -/

/-- Puts the next item in front of those before it. -/
def pushItem {α : Type} (item : Reader α) (items : List α) : Reader (List α) := do
  let a ← item
  pure (a :: items)

def list {α : Type} (item : Reader α) : Reader (List α) := do
  let b ← nextToken (.endOfInput .value)
  if b = Ascii.openBracket then
    let items ← Enclosure.list.fold (pushItem item) []
    pure items.reverse
  else mismatch "a sequence" b

/-- The key of an entry. -/
def key : Reader String := do
  if (← nextToken (.endOfInput .value)) = Ascii.quote then textBody else fail .keyNotText

def colon : Reader Unit := do
  if (← nextToken (.endOfInput .object)) = Ascii.colon then pure () else fail .expectedColon

/-- One entry of a dictionary; it replaces an earlier one with the same key. -/
def dictionaryEntry (entries : StringMap) : Reader StringMap := do
  let k ← key
  colon
  let t ← text
  pure (entries.insert k t)

def dictionary : Reader StringMap := do
  let b ← nextToken (.endOfInput .value)
  if b = Ascii.openBrace then Enclosure.object.fold dictionaryEntry ∅ else mismatch "a map" b

/-! ## Whole documents -/

/-- Reads one value; nothing but white space may follow it. -/
def readWhole {α : Type} (x : Reader α) (s : Bytes) : Except Fault α :=
  match x.run s with
  | .error fault => .error fault
  | .ok (a, r) => if r.all isBlank then .ok a else .error .trailingCharacters

end Json

end InterfaceDocs
