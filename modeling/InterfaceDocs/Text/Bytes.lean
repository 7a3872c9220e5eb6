import Std.Data.ExtTreeSet

/-!
# Bytes and the text they spell

`Bytes` is what a store hands out and what a reader consumes.  `Bytes.ofString` writes a text in
UTF-8; `Bytes.toString?` reads it back and refuses bytes that are not UTF-8.

    b.toString? = some t ↔ b = Bytes.ofString t        (toString?_eq_some_iff)

Texts are put in the order of their characters, which is that of their UTF-8 bytes:
`Text.sortedDistinct` keeps each one once, and two lists with the same texts give the same list.
-/

namespace InterfaceDocs

abbrev Bytes := List UInt8

namespace Bytes

/-! ## Algorithm -/

/-- The UTF-8 bytes of a text. -/
def ofString (t : String) : Bytes := t.toUTF8.data.toList

/-- The text that the bytes spell in UTF-8, if they spell one. -/
def toString? (b : Bytes) : Option String := String.fromUTF8? ⟨b.toArray⟩

/-! ## Lemmas -/

@[simp] theorem toString?_ofString (t : String) : toString? (ofString t) = some t := by
  have h : (⟨(ofString t).toArray⟩ : ByteArray) = t.toByteArray := rfl
  simp only [toString?, String.fromUTF8?, h, t.isValidUTF8, dif_pos]
  rfl

theorem toString?_eq_some_iff {b : Bytes} {t : String} : toString? b = some t ↔ b = ofString t := by
  refine ⟨fun h => ?_, fun h => h ▸ toString?_ofString t⟩
  unfold toString? String.fromUTF8? at h
  split at h
  · cases h
    rfl
  · cases h

end Bytes

/-! ## The ASCII bytes that the readers look for -/

namespace Ascii

abbrev tab : UInt8 := 0x09
abbrev newline : UInt8 := 0x0a
abbrev carriageReturn : UInt8 := 0x0d
abbrev space : UInt8 := 0x20
abbrev quote : UInt8 := 0x22
abbrev plus : UInt8 := 0x2b
abbrev comma : UInt8 := 0x2c
abbrev minus : UInt8 := 0x2d
abbrev point : UInt8 := 0x2e
abbrev slash : UInt8 := 0x2f
abbrev zero : UInt8 := 0x30
abbrev nine : UInt8 := 0x39
abbrev colon : UInt8 := 0x3a
abbrev openBracket : UInt8 := 0x5b
abbrev backslash : UInt8 := 0x5c
abbrev closeBracket : UInt8 := 0x5d
abbrev openBrace : UInt8 := 0x7b
abbrev closeBrace : UInt8 := 0x7d

/-- The byte of an ASCII letter. -/
abbrev letter (c : Char) : UInt8 := c.toUInt8

def isDigit (b : UInt8) : Bool := zero ≤ b && b ≤ nine

/-- The value of a decimal digit. -/
def digitValue (b : UInt8) : Nat := b.toNat - zero.toNat

/-- The value of a hexadecimal digit of either case. -/
def hexValue? (b : UInt8) : Option Nat :=
  let n := b.toNat
  if isDigit b then some (digitValue b)
  else if 0x41 ≤ n && n ≤ 0x46 then some (n - 0x37)
  else if 0x61 ≤ n && n ≤ 0x66 then some (n - 0x57)
  else none

end Ascii

/-! ## Texts in order -/

namespace Text

/-- The texts of a list in order, each one once. -/
def sortedDistinct (ts : List String) : List String := (Std.ExtTreeSet.ofList ts).toList

theorem mem_sortedDistinct {ts : List String} {t : String} : t ∈ sortedDistinct ts ↔ t ∈ ts := by
  simp [sortedDistinct, Std.ExtTreeSet.mem_toList]

theorem sortedDistinct_pairwise (ts : List String) :
    (sortedDistinct ts).Pairwise fun a b => compare a b = .lt :=
  Std.ExtTreeSet.ordered_toList

end Text

end InterfaceDocs
