import InterfaceDocs.Decimal.Binary64

/-!
# The shortest decimal text of a double

Every double is the nearest one to an interval of real numbers.  `shortest` finds the decimal
`digits * 10 ^ exponent` of that interval that has the fewest digits, and of those the one nearest
to the double; `Layout.write` lays its digits out.  On the grid of decimals with `n` digits only the
two neighbours of the double need a look: if any point of the grid is in the interval, one of them
is.
-/

namespace InterfaceDocs.Decimal

/-! ## Algorithm -/

/-- A decimal `digits * 10 ^ exponent`. -/
structure Scientific where
  digits : Nat
  exponent : Int
deriving DecidableEq, Repr

namespace Scientific

/-- A decimal as a ratio of naturals. -/
def ratio (d : Scientific) : Nat × Nat :=
  if 0 ≤ d.exponent then (d.digits * Nat.pow 10 d.exponent.toNat, 1)
  else (d.digits, Nat.pow 10 (-d.exponent).toNat)

/-- The same decimal without zeros at the end of its digits. -/
def trimmed (d : Scientific) : Scientific :=
  if h : 0 < d.digits ∧ d.digits % 10 = 0 then trimmed ⟨d.digits / 10, d.exponent + 1⟩ else d
termination_by d.digits
decreasing_by exact Nat.div_lt_self h.1 (by decide)

end Scientific

/-- How many decimal digits a natural number has. -/
def digitCount (n : Nat) : Nat := (Nat.toDigits 10 n).length

/-- The exponent of the first significant digit of `num / den`. -/
def leadingExponent (num den : Nat) : Int :=
  if den ≤ num then (digitCount (num / den) : Int) - 1 else -(digitCount ((den - 1) / num) : Int)

namespace Binary64

/-- Whether the ratio rounds to the double: it lies between the midpoints to the two neighbours,
and on a midpoint only if the mantissa is even. -/
def attracts (x : Binary64) (r : Nat × Nat) : Bool :=
  let irregular := x.mantissa = Nat.pow 2 52 ∧ minExponent < x.exponent
  let (lowN, lowD) :=
    if irregular then shiftRatio (4 * x.mantissa - 1) 1 (x.exponent - 2)
    else shiftRatio (2 * x.mantissa - 1) 1 (x.exponent - 1)
  let (highN, highD) := shiftRatio (2 * x.mantissa + 1) 1 (x.exponent - 1)
  let below := lowN * r.2
  let above := highN * r.2
  if x.mantissa % 2 = 0 then below ≤ r.1 * lowD && r.1 * highD ≤ above
  else below < r.1 * lowD && r.1 * highD < above

/-- The decimal nearest to the double among those of its interval on the grid of multiples of
`10 ^ p`; of two at the same distance, the one whose last digit is even. -/
def nearestOnGrid? (x : Binary64) (p : Int) : Option Scientific :=
  let (num, den) := x.ratio
  let (n, d) := if 0 ≤ p then (num, den * Nat.pow 10 p.toNat) else (num * Nat.pow 10 (-p).toNat, den)
  let below : Scientific := ⟨n / d, p⟩
  let above : Scientific := ⟨n / d + 1, p⟩
  let nearest : Scientific := ⟨roundDiv n d, p⟩
  match x.attracts below.ratio, x.attracts above.ratio with
  | true, true => some nearest
  | true, false => some below
  | false, true => some above
  | false, false => none

/-- Seventeen digits always suffice. -/
def maxDigits : Nat := 17

/-- The decimal with the fewest digits that rounds to the double. -/
def shortest (x : Binary64) : Scientific :=
  let (num, den) := x.ratio
  let lead := leadingExponent num den
  match (List.range maxDigits).findSome? fun (n : Nat) => x.nearestOnGrid? (lead - n) with
  | some d => d.trimmed
  | none => ⟨0, 0⟩

end Binary64

/-- How a decimal is laid out: numbers whose first digit has an exponent from `lowest` to `highest`
are written with a point and all their places, the others with one digit before the point and an
exponent. -/
structure Layout where
  lowest : Int
  highest : Int
  /-- What a positional whole number ends in. -/
  wholeSuffix : String
  /-- What stands before an exponent that is not negative. -/
  exponentSign : String

namespace Layout

def zeros (n : Nat) : List Char := List.replicate n '0'

/-- Digits with a point after the first `whole` of them. -/
def pointed (ds : List Char) (whole : Nat) : List Char :=
  ds.take whole ++ '.' :: ds.drop whole

/-- The text of a decimal that is not zero. -/
def decimal (l : Layout) (d : Scientific) : String :=
  let ds := Nat.toDigits 10 d.digits
  let lead : Int := d.exponent + ds.length - 1
  if l.lowest ≤ lead ∧ lead ≤ l.highest then
    if 0 ≤ d.exponent then String.ofList (ds ++ zeros d.exponent.toNat) ++ l.wholeSuffix
    else if 0 ≤ lead then String.ofList (pointed ds (lead.toNat + 1))
    else String.ofList ('0' :: '.' :: zeros (-lead - 1).toNat ++ ds)
  else
    let mark := if lead < 0 then "-" else l.exponentSign
    let figures := if ds.length = 1 then ds else pointed ds 1
    String.ofList figures ++ "e" ++ mark ++ toString lead.natAbs

/-- The text of a double with its sign; zero has one too. -/
def write (l : Layout) (negative : Bool) (x : Binary64) : String :=
  let magnitude := if x.mantissa = 0 then "0" ++ l.wholeSuffix else l.decimal x.shortest
  if negative then "-" ++ magnitude else magnitude

end Layout

/-! ## Examples -/

example : (Binary64.ofRatio 1 10).shortest = ⟨1, -1⟩ := by decide +kernel
example : (Binary64.ofNat (2 ^ 64)).shortest = ⟨18446744073709552, 3⟩ := by decide +kernel
example : (⟨1, Binary64.minExponent⟩ : Binary64).shortest = ⟨5, -324⟩ := by decide +kernel

end InterfaceDocs.Decimal
