import InterfaceDocs.Json.Text
import InterfaceDocs.Json.Number

/-!
# Values that nobody asks for

`skip` takes one value of any shape off the front and looks at its form only.  The brackets that
are open are kept in a list, the innermost first, so a value may be nested to any depth: one turn
takes the start of a value and, if that ends it, all that follows up to the start of the next.
-/

namespace InterfaceDocs.Json

open Reader

/-- A bracket that is open. -/
inductive Bracket
  | list
  | object
deriving DecidableEq, Repr

/-- A key and its colon. -/
def skipKey : Reader Unit := do
  if (← nextToken (.endOfInput .object)) = Ascii.quote then
    skipText
    if (← nextToken (.endOfInput .object)) = Ascii.colon then pure () else fail .expectedColon
  else fail .keyNotText

/-- What follows a value: closing brackets, until a comma asks for another value or no bracket is
open. -/
def afterValue : List Bracket → Reader (Turn (List Bracket) Unit)
  | [] => pure (.done ())
  | .list :: outer => do
    let b ← nextToken (.endOfInput .list)
    if b = Ascii.comma then pure (.again (.list :: outer))
    else if b = Ascii.closeBracket then afterValue outer
    else fail .expectedListSeparator
  | .object :: outer => do
    let b ← nextToken (.endOfInput .object)
    if b = Ascii.comma then
      skipKey
      pure (.again (.object :: outer))
    else if b = Ascii.closeBrace then afterValue outer
    else fail .expectedObjectSeparator

/-- What follows an opening bracket: the end of an empty list, or its first value. -/
def afterOpenBracket (outer : List Bracket) : Reader (Turn (List Bracket) Unit) := do
  match ← peekToken with
  | none => fail (.endOfInput .list)
  | some b =>
    if b = Ascii.closeBracket then
      let _ ← next (.endOfInput .list)
      afterValue outer
    else pure (.again (.list :: outer))

/-- What follows an opening brace: the end of an empty object, or its first key. -/
def afterOpenBrace (outer : List Bracket) : Reader (Turn (List Bracket) Unit) := do
  match ← peekToken with
  | none => fail (.endOfInput .object)
  | some b =>
    if b = Ascii.closeBrace then
      let _ ← next (.endOfInput .object)
      afterValue outer
    else
      skipKey
      pure (.again (.object :: outer))

/-- One turn, from the first byte of a value. -/
def skipFrom (outer : List Bracket) (b : UInt8) : Reader (Turn (List Bracket) Unit) := do
  if b = Ascii.letter 'n' then
    word ("ull".toList.map Ascii.letter)
    afterValue outer
  else if b = Ascii.letter 't' then
    word ("rue".toList.map Ascii.letter)
    afterValue outer
  else if b = Ascii.letter 'f' then
    word ("alse".toList.map Ascii.letter)
    afterValue outer
  else if startsNumber b then
    let _ ← numeral .invalidNumber b
    afterValue outer
  else if b = Ascii.quote then
    skipText
    afterValue outer
  else if b = Ascii.openBracket then afterOpenBracket outer
  else if b = Ascii.openBrace then afterOpenBrace outer
  else fail .expectedValue

def skipTurn (outer : List Bracket) : Reader (Turn (List Bracket) Unit) := do
  let b ← nextToken (.endOfInput .value)
  skipFrom outer b

theorem skipTurn_advances : Advances skipTurn :=
  advances_of_strict fun _ => (strict_nextToken _).bind _

/-- Takes one value off the front. -/
def skip : Reader Unit := iterate skipTurn skipTurn_advances []

end InterfaceDocs.Json
