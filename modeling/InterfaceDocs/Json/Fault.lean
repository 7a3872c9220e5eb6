import InterfaceDocs.Text.Quoted
import InterfaceDocs.Decimal.Shortest

/-!
# What can be wrong with a JSON document

A `Fault` is the cause for which a reader stops; `Fault.message` is its wording.  A reader stops at
the first fault in byte order, so a document has at most one.
-/

namespace InterfaceDocs.Json

/-! ## Faults -/

/-- What a reader was inside of when the input ended. -/
inductive Unfinished
  | value
  | text
  | list
  | object
deriving DecidableEq, Repr

/-- A value that stands where another kind of value belongs. -/
inductive Found
  | null
  | boolean (value : Bool)
  | integer (value : Int)
  | float (negative : Bool) (magnitude : Decimal.Binary64)
  | text (value : String)
  | list
  | object
deriving DecidableEq, Repr

inductive Fault
  | endOfInput (inside : Unfinished)
  | expectedValue
  | expectedIdent
  | expectedColon
  | expectedListSeparator
  | expectedObjectSeparator
  | keyNotText
  | trailingComma
  | trailingCharacters
  | invalidNumber
  | numberOutOfRange
  | controlCharacter
  | invalidEscape
  | loneSurrogate
  | unfinishedSurrogatePair
  | invalidCodePoint
  /-- A value of another kind than the one that belongs here. -/
  | unexpected (found : Found) (wanted : String)
  /-- A record written as a list that ends before all its fields are there. -/
  | tooShort (length : Nat) (wanted : String) (arity : Nat)
  | duplicateField (name : String)
  | missingField (name : String)
deriving DecidableEq, Repr

/-! ## Wording -/

def Unfinished.message : Unfinished → String
  | value => "a value"
  | text => "a string"
  | list => "a list"
  | object => "an object"

/-- Floats in messages are written positionally from `10 ^ -5` up to `10 ^ 16`, whole ones with one
place, and otherwise with a signed exponent. -/
def floatLayout : Decimal.Layout := ⟨-5, 15, ".0", "+"⟩

def Found.message : Found → String
  | null => "null"
  | boolean value => "boolean `" ++ (if value then "true" else "false") ++ "`"
  | integer value => "integer `" ++ toString value ++ "`"
  | float negative magnitude => "floating point `" ++ floatLayout.write negative magnitude ++ "`"
  | text value => "string " ++ Text.quoted value
  | list => "sequence"
  | object => "map"

def Fault.message : Fault → String
  | endOfInput inside => "EOF while parsing " ++ inside.message
  | expectedValue => "expected value"
  | expectedIdent => "expected ident"
  | expectedColon => "expected `:`"
  | expectedListSeparator => "expected `,` or `]`"
  | expectedObjectSeparator => "expected `,` or `\x7d`"
  | keyNotText => "key must be a string"
  | trailingComma => "trailing comma"
  | trailingCharacters => "trailing characters"
  | invalidNumber => "invalid number"
  | numberOutOfRange => "number out of range"
  | controlCharacter => "control character (\\u0000-\\u001F) found while parsing a string"
  | invalidEscape => "invalid escape"
  | loneSurrogate => "lone leading surrogate in hex escape"
  | unfinishedSurrogatePair => "unexpected end of hex escape"
  | invalidCodePoint => "invalid unicode code point"
  | unexpected found wanted => "invalid type: " ++ found.message ++ ", expected " ++ wanted
  | tooShort length wanted arity =>
    "invalid length " ++ toString length ++ ", expected " ++ wanted ++ " with " ++ toString arity
      ++ " elements"
  | duplicateField name => "duplicate field `" ++ name ++ "`"
  | missingField name => "missing field `" ++ name ++ "`"

end InterfaceDocs.Json
