/-!
# Numbers rounded to 53 bits

A `Binary64` is a magnitude `mantissa * 2 ^ exponent` as a double holds it, zero included.
`Binary64.ofRatio` rounds a quotient of naturals to the nearest one, a half to the even neighbour;
`scaled` multiplies by a power of ten one rounding at a time.  All arithmetic is exact on naturals,
so every statement about it is a statement about `Nat`.
-/

namespace InterfaceDocs.Decimal

/-- A magnitude `mantissa * 2 ^ exponent`. -/
structure Binary64 where
  mantissa : Nat
  exponent : Int
deriving DecidableEq, Repr

/-- The quotient rounded to the nearest natural number, a half to the even one. -/
def roundDiv (num den : Nat) : Nat :=
  let q := num / den
  let twice := 2 * (num % den)
  if twice < den then q
  else if den < twice then q + 1
  else q + q % 2

/-- A ratio of naturals multiplied by a power of two. -/
def shiftRatio (num den : Nat) (e : Int) : Nat × Nat :=
  if 0 ≤ e then (num * Nat.pow 2 e.toNat, den) else (num, den * Nat.pow 2 (-e).toNat)

namespace Binary64

/-! ## Algorithm -/

def zero : Binary64 := ⟨0, 0⟩

def minExponent : Int := -1074

def maxExponent : Int := 971

/-- The exponent of the last bit of a double near `num / den`. -/
def lastBit (num den : Nat) : Int :=
  let guess : Int := Nat.log2 num - Nat.log2 den
  let (n, d) := shiftRatio num den (-guess)
  max (if n < d then guess - 53 else guess - 52) minExponent

/-- The double nearest to `num / den`; its exponent may be past the largest. -/
def ofRatio (num den : Nat) : Binary64 :=
  if num = 0 then zero
  else
    let e := lastBit num den
    let (n, d) := shiftRatio num den (-e)
    let m := roundDiv n d
    if m = 0 then zero
    else if m = Nat.pow 2 53 then ⟨Nat.pow 2 52, e + 1⟩
    else ⟨m, e⟩

def ofNat (n : Nat) : Binary64 := ofRatio n 1

/-- The magnitude as a ratio of naturals. -/
def ratio (x : Binary64) : Nat × Nat := shiftRatio x.mantissa 1 x.exponent

/-- Past the largest double. -/
def overflows (x : Binary64) : Bool := maxExponent < x.exponent

def mul (x y : Binary64) : Binary64 :=
  let (n, d) := shiftRatio (x.mantissa * y.mantissa) 1 (x.exponent + y.exponent)
  ofRatio n d

def div (x y : Binary64) : Binary64 :=
  let (n, d) := shiftRatio x.mantissa y.mantissa (x.exponent - y.exponent)
  ofRatio n d

/-- The largest power of ten that is used as one factor. -/
def maxPower : Nat := 308

def powerOfTen (k : Nat) : Binary64 := ofNat (Nat.pow 10 k)

/-- Division by `10 ^ k`, in steps of the largest power of ten until nothing is left. -/
def dividedByTenTo (x : Binary64) (k : Nat) : Binary64 :=
  if k ≤ maxPower then x.div (powerOfTen k)
  else if x.mantissa = 0 then x
  else dividedByTenTo (x.div (powerOfTen maxPower)) (k - maxPower)
termination_by k
decreasing_by simp_all only [maxPower]; omega

/-- The magnitude times `10 ^ k`; none when it is past the largest double. -/
def scaled (x : Binary64) (k : Int) : Option Binary64 :=
  if k < 0 then some (x.dividedByTenTo (-k).toNat)
  else if k ≤ maxPower then
    let y := x.mul (powerOfTen k.toNat)
    if y.overflows then none else some y
  else if x.mantissa = 0 then some x
  else none

end Binary64

/-! ## Examples -/

example : roundDiv 5 2 = 2 ∧ roundDiv 7 2 = 4 ∧ roundDiv 8 3 = 3 := by decide
example : Binary64.ofNat (2 ^ 53 + 1) = ⟨2 ^ 52, 1⟩ := by decide +kernel
example : Binary64.ofRatio 1 10 = ⟨0x1999999999999a, -56⟩ := by decide +kernel

end InterfaceDocs.Decimal
