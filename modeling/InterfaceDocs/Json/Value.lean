/-!
# JSON values and their printed form

`Value.pretty` prints a value on as many lines as it has parts, two spaces deeper inside each
bracket.  In strings only quotes, backslashes and control characters are escaped.
-/

namespace InterfaceDocs.Json

/-- The values that are printed: texts, and lists and objects of them. -/
inductive Value
  | null
  | text (content : String)
  | list (items : List Value)
  | object (entries : List (String × Value))

/-! ## Strings -/

/-- A digit of a hexadecimal number. -/
def hexDigit (n : Nat) : Char := Nat.digitChar (n % 16)

def escapedChar (c : Char) : List Char :=
  if c = '"' then ['\\', '"']
  else if c = '\\' then ['\\', '\\']
  else if c = '\x08' then ['\\', 'b']
  else if c = '\x0c' then ['\\', 'f']
  else if c = '\n' then ['\\', 'n']
  else if c = '\r' then ['\\', 'r']
  else if c = '\t' then ['\\', 't']
  else if c.toNat < 0x20 then ['\\', 'u', '0', '0', hexDigit (c.toNat / 16), hexDigit c.toNat]
  else [c]

/-- A text between quotes. -/
def printText (t : String) : String := String.ofList ('"' :: t.toList.flatMap escapedChar ++ ['"'])

/-! ## Values -/

/-- A new line inside of so many brackets. -/
def newline (depth : Nat) : String := String.ofList ('\n' :: List.replicate (2 * depth) ' ')

namespace Value

mutual

/-- The printed form of a value inside of so many brackets. -/
def prettyAt (depth : Nat) : Value → String
  | null => "null"
  | text t => printText t
  | list [] => "[]"
  | list (v :: vs) =>
    "[" ++ newline (depth + 1) ++ prettyAt (depth + 1) v ++ prettyItems (depth + 1) vs
      ++ newline depth ++ "]"
  | object [] => "\x7b\x7d"
  | object ((k, v) :: es) =>
    "\x7b" ++ newline (depth + 1) ++ printText k ++ ": " ++ prettyAt (depth + 1) v
      ++ prettyEntries (depth + 1) es ++ newline depth ++ "\x7d"

/-- The items after the first one. -/
def prettyItems (depth : Nat) : List Value → String
  | [] => ""
  | v :: vs => "," ++ newline depth ++ prettyAt depth v ++ prettyItems depth vs

/-- The entries after the first one. -/
def prettyEntries (depth : Nat) : List (String × Value) → String
  | [] => ""
  | (k, v) :: es =>
    "," ++ newline depth ++ printText k ++ ": " ++ prettyAt depth v ++ prettyEntries depth es

end

def pretty (v : Value) : String := v.prettyAt 0

end Value

/-! ## Examples -/

example : printText "a\"\x01/" = "\"a\\\"\\u0001/\"" := by decide +kernel

end InterfaceDocs.Json
