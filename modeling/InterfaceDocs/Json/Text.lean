import InterfaceDocs.Json.Reader

/-!
# Strings

The inside of a string is read byte by byte up to the quote that ends it.  What stands after a
backslash is read by an escape reader: `decoded` gives the bytes that an escape stands for, and
`checked` only looks at its form, for strings whose content nobody asks for.  A string whose bytes
are not UTF-8 is refused at its end.
-/

namespace InterfaceDocs.Json

open Reader

/-! ## Escapes -/

/-- The byte that a one-letter escape stands for. -/
def simpleEscape? (b : UInt8) : Option UInt8 :=
  if b = Ascii.quote ∨ b = Ascii.backslash ∨ b = Ascii.slash then some b
  else if b = Ascii.letter 'b' then some 0x08
  else if b = Ascii.letter 'f' then some 0x0c
  else if b = Ascii.letter 'n' then some Ascii.newline
  else if b = Ascii.letter 'r' then some Ascii.carriageReturn
  else if b = Ascii.letter 't' then some Ascii.tab
  else none

/-- The number that four hexadecimal digits spell. -/
def hexNumber? (a b c d : UInt8) : Option Nat := do
  let a ← Ascii.hexValue? a
  let b ← Ascii.hexValue? b
  let c ← Ascii.hexValue? c
  let d ← Ascii.hexValue? d
  return ((a * 16 + b) * 16 + c) * 16 + d

/-- A byte of a string, the quote at its end included. -/
def nextInText : Reader UInt8 := next (.endOfInput .text)

def fourHexDigits : Reader Nat := do
  let a ← nextInText
  let b ← nextInText
  let c ← nextInText
  let d ← nextInText
  match hexNumber? a b c d with
  | some n => pure n
  | none => fail .invalidEscape

def isLowSurrogate (n : Nat) : Bool := 0xdc00 ≤ n && n ≤ 0xdfff

def isHighSurrogate (n : Nat) : Bool := 0xd800 ≤ n && n ≤ 0xdbff

/-- The code point that a surrogate pair stands for. -/
def pairedSurrogates (high low : Nat) : Nat := 0x10000 + (high - 0xd800) * 0x400 + (low - 0xdc00)

/-- The second half of a surrogate pair, from its backslash on. -/
def lowSurrogate : Reader Nat := do
  if (← nextInText) = Ascii.backslash then
    if (← nextInText) = Ascii.letter 'u' then
      let low ← fourHexDigits
      if isLowSurrogate low then pure low else fail .loneSurrogate
    else fail .unfinishedSurrogatePair
  else fail .unfinishedSurrogatePair

/-- The code point of an escape by number; the two halves of a surrogate pair make one. -/
def codePoint : Reader Nat := do
  let n ← fourHexDigits
  if isLowSurrogate n then fail .loneSurrogate
  else if isHighSurrogate n then
    let low ← lowSurrogate
    pure (pairedSurrogates n low)
  else pure n

/-- What stands after a backslash, with a reader for escapes by number. -/
def escapeWith (byNumber : Reader Bytes) : Reader Bytes := do
  let b ← nextInText
  match simpleEscape? b with
  | some c => pure [c]
  | none => if b = Ascii.letter 'u' then byNumber else fail .invalidEscape

/-- The bytes that an escape stands for. -/
def decoded : Reader Bytes := escapeWith do
  let n ← codePoint
  pure (String.utf8EncodeChar (Char.ofNat n))

/-- The form of an escape; surrogates may stand alone. -/
def checked : Reader Bytes := escapeWith do
  let _ ← fourHexDigits
  pure []

/-! ## Strings -/

/-- One byte or one escape of a string; the bytes so far are kept last one first. -/
def textTurn (escape : Reader Bytes) (taken : Bytes) : Reader (Turn Bytes Bytes) := do
  let b ← nextInText
  if b = Ascii.quote then pure (.done taken.reverse)
  else if b = Ascii.backslash then
    let bs ← escape
    pure (.again (bs.reverse ++ taken))
  else if b < Ascii.space then fail .controlCharacter
  else pure (.again (b :: taken))

theorem textTurn_advances (escape : Reader Bytes) : Advances (textTurn escape) :=
  advances_of_strict fun _ => (strict_next _).bind _

/-- The bytes of a string after its opening quote. -/
def textBytes (escape : Reader Bytes) : Reader Bytes :=
  iterate (textTurn escape) (textTurn_advances escape) []

/-- The text of a string after its opening quote. -/
def textBody : Reader String := do
  let bs ← textBytes decoded
  match bs.toString? with
  | some t => pure t
  | none => fail .invalidCodePoint

/-- A string after its opening quote, for its form only. -/
def skipText : Reader Unit := do
  let _ ← textBytes checked
  pure ()

end InterfaceDocs.Json
