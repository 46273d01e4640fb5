/-! Finite numbers of the 64-bit binary format, held exactly, and correct rounding to them. -/

namespace ResourceStubs.Decimal

/-- A power of two. -/
def twoPow (n : Nat) : Nat := Nat.pow 2 n

/-- A power of ten. -/
def tenPow (n : Nat) : Nat := Nat.pow 10 n

/-- The non-negative number `mantissa · 2 ^ exponent`. -/
structure Binary64 where
  mantissa : Nat
  exponent : Int
  deriving DecidableEq, Repr

namespace Binary64

/-- One more than the greatest mantissa. -/
def mantissaBound : Nat := twoPow 53

/-- The least exponent, that of subnormal numbers. -/
def minExponent : Int := -1074

/-- The greatest exponent. -/
def maxExponent : Int := 971

/-- The quotient to the nearest integer, a half to the even neighbour. -/
def roundDiv (num den : Nat) : Nat :=
  let quotient := num / den
  let twice := 2 * (num % den)
  if twice < den then quotient
  else if den < twice then quotient + 1
  else quotient + quotient % 2

/-- The quotient of two numbers as the numerator and denominator of its multiple by `2 ^ -e`. -/
def scaleDown (num den : Nat) (e : Int) : Nat × Nat :=
  if 0 ≤ e then (num, den * twoPow e.toNat) else (num * twoPow (-e).toNat, den)

/-- The exponent at which the quotient of two positive numbers fills the mantissa, or the least
exponent if that is greater. -/
def exponentFor (num den : Nat) : Int :=
  let guess : Int := (num.log2 : Int) - den.log2 - 52
  let (n, d) := scaleDown num den guess
  max minExponent (if n < d * twoPow 52 then guess - 1 else guess)

/-- The nearest number to a quotient, a tie to the even mantissa; none beyond the greatest
number. -/
def ofRatio? (num den : Nat) : Option Binary64 :=
  if num = 0 then some ⟨0, minExponent⟩
  else
    let e := exponentFor num den
    let (n, d) := scaleDown num den e
    let m := roundDiv n d
    let rounded : Binary64 := if m = mantissaBound then ⟨twoPow 52, e + 1⟩ else ⟨m, e⟩
    if rounded.exponent ≤ maxExponent then some rounded else none

/-- Numerator and denominator of the number. -/
def toRatio (x : Binary64) : Nat × Nat :=
  if 0 ≤ x.exponent then (x.mantissa * twoPow x.exponent.toNat, 1)
  else (x.mantissa, twoPow (-x.exponent).toNat)

/-- The rounded product. -/
def mul? (x y : Binary64) : Option Binary64 :=
  ofRatio? (x.toRatio.1 * y.toRatio.1) (x.toRatio.2 * y.toRatio.2)

/-- The rounded quotient of `x` by a number that is not zero. -/
def div? (x y : Binary64) : Option Binary64 :=
  ofRatio? (x.toRatio.1 * y.toRatio.2) (x.toRatio.2 * y.toRatio.1)

/-- The rounded power of ten. -/
def tenPow? (k : Nat) : Option Binary64 := ofRatio? (tenPow k) 1

end Binary64

end ResourceStubs.Decimal
