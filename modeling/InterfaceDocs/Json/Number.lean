import InterfaceDocs.Json.Reader

/-!
# Numbers

`Numeral` is a number as it is written.  `Numeral.found` is its value: an integer if it has neither
point nor exponent and fits 64 bits with or without a sign, else a double.  The double comes from a
significand of at most 64 bits and a power of ten: digits that do not fit the significand any more
only move the point.
-/

namespace InterfaceDocs.Json

open Reader

/-! ## Numbers as written -/

/-- A number as it is written; without a point the fraction is empty. -/
structure Numeral where
  negative : Bool
  whole : List Nat
  fraction : List Nat
  exponent : Option Int
deriving DecidableEq, Repr

/-- The digits after a first one. -/
def moreDigits (first : UInt8) : Reader (List Nat) := do
  let bs ← takeWhile Ascii.isDigit
  pure ((first :: bs).map Ascii.digitValue)

/-- At least one digit; `atEnd` is the fault if the input ends instead. -/
def someDigits (atEnd : Fault) : Reader (List Nat) := do
  let b ← next atEnd
  if Ascii.isDigit b then moreDigits b else fail .invalidNumber

/-- The digits before the point: a zero stands alone. -/
def wholeDigits (first : UInt8) : Reader (List Nat) := do
  if first = Ascii.zero then
    match ← peek with
    | some b => if Ascii.isDigit b then fail .invalidNumber else pure [0]
    | none => pure [0]
  else if Ascii.isDigit first then moreDigits first
  else fail .invalidNumber

/-- The value of a list of digits. -/
def digitsValue (ds : List Nat) : Nat := ds.foldl (fun n d => n * 10 + d) 0

def fractionDigits (atEnd : Fault) : Reader (List Nat) := do
  if (← peek) = some Ascii.point then
    let _ ← next atEnd
    someDigits atEnd
  else pure []

/-- The sign before the digits of an exponent. -/
def exponentSign (atEnd : Fault) : Reader Bool := do
  let sign ← peek
  if sign = some Ascii.minus then
    let _ ← next atEnd
    pure true
  else if sign = some Ascii.plus then
    let _ ← next atEnd
    pure false
  else pure false

def exponentPart (atEnd : Fault) : Reader (Option Int) := do
  let mark ← peek
  if mark = some (Ascii.letter 'e') ∨ mark = some (Ascii.letter 'E') then
    let _ ← next atEnd
    let negative ← exponentSign atEnd
    let ds ← someDigits atEnd
    let n : Int := digitsValue ds
    pure (some (if negative then -n else n))
  else pure none

/-- A number, of which the first byte has been taken; `atEnd` is the fault if the input ends where
a digit has to be. -/
def numeral (atEnd : Fault) (first : UInt8) : Reader Numeral := do
  let negative : Bool := first = Ascii.minus
  let lead ← if negative then next atEnd else pure first
  let whole ← wholeDigits lead
  let fraction ← fractionDigits atEnd
  let exponent ← exponentPart atEnd
  pure ⟨negative, whole, fraction, exponent⟩

/-- Whether a number can start with the byte. -/
def startsNumber (b : UInt8) : Bool := b = Ascii.minus || Ascii.isDigit b

/-! ## Values -/

/-- The largest significand. -/
def maxSignificand : Nat := Nat.pow 2 64 - 1

/-- Appends digits to a significand as long as it fits, and counts the digits left over. -/
def absorb (m : Nat) : List Nat → Nat × Nat
  | [] => (m, 0)
  | d :: ds => if m * 10 + d ≤ maxSignificand then absorb (m * 10 + d) ds else (m, ds.length + 1)

namespace Numeral

/-- The double nearest to the significand, times or divided by the power of ten. -/
def float (n : Numeral) : Except Fault Found :=
  let (m, dropped) := absorb 0 n.whole
  let (m, ignored) := absorb m n.fraction
  let point : Int := dropped - (n.fraction.length - ignored : Nat)
  match (Decimal.Binary64.ofNat m).scaled (point + n.exponent.getD 0) with
  | some x => .ok (.float n.negative x)
  | none => .error .numberOutOfRange

/-- The value of a number: an integer from `-2 ^ 63` up to `2 ^ 64 - 1` other than minus zero, or
a double. -/
def found (n : Numeral) : Except Fault Found :=
  let m := digitsValue n.whole
  let limit := if n.negative then Nat.pow 2 63 else maxSignificand
  if n.fraction = [] ∧ n.exponent = none ∧ m ≤ limit ∧ ¬(n.negative ∧ m = 0) then
    .ok (.integer (if n.negative then -m else m))
  else n.float

end Numeral

/-! ## Examples -/

example : (Numeral.found ⟨true, [0], [], none⟩).toOption = some (.float true .zero) := by
  decide +kernel
example : (Numeral.found ⟨false, [1], [], some 309⟩).toOption = none := by decide +kernel

end InterfaceDocs.Json
