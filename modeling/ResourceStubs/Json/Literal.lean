import ResourceStubs.Json.Basic

/-! Number literals. A significand of one machine word is read from the leading digits, and the rest
of the literal only scales it; a fraction is the rounded significand times or over a rounded power
of ten. -/

namespace ResourceStubs.Json

open Decimal

/-- The parts of a number literal. -/
structure Literal where
  minus : Bool
  whole : List Char
  fraction : Option (List Char)
  exponent : Option (Bool × List Char)

/-- One more than the greatest machine word. -/
def wordBound : Nat := twoPow 64

/-- The value of a digit. -/
def digitValue (c : Char) : Nat := c.toNat - '0'.toNat

/-- Digits are taken into the significand while it stays a machine word. The result has the number
of digits taken and of digits left. -/
def takeDigits (significand : Nat) : List Char → Nat × Nat × Nat
  | [] => (significand, 0, 0)
  | c :: rest =>
    let next := significand * 10 + digitValue c
    if next < wordBound then
      let (s, taken, left) := takeDigits next rest
      (s, taken + 1, left)
    else (significand, 0, rest.length + 1)

/-- The greatest power of ten that the format holds. -/
def maxTenPow : Nat := 308

/-- The quotient of a number by `10 ^ k`, in steps of the greatest power. -/
def divTenPow (x : Binary64) (k : Nat) : Option Binary64 :=
  if k ≤ maxTenPow then (Binary64.tenPow? k).bind x.div?
  else if x.mantissa = 0 then some x
  else ((Binary64.tenPow? maxTenPow).bind x.div?).bind fun y => divTenPow y (k - maxTenPow)
termination_by k
decreasing_by simp only [maxTenPow] at *; omega

/-- The number `significand · 10 ^ exponent`, or none if it is out of range. -/
def scaled? (significand : Nat) (exponent : Int) : Option Binary64 := do
  let x ← Binary64.ofRatio? significand 1
  if exponent < 0 then divTenPow x (-exponent).toNat
  else if exponent ≤ maxTenPow then (Binary64.tenPow? exponent.toNat).bind x.mul?
  else if x.mantissa = 0 then some x
  else none

/-- One more than the greatest exponent that is counted. -/
def exponentBound : Nat := twoPow 31

/-- The exponent of a literal, with its sign. An exponent past the bound is taken as the bound. -/
def Literal.exponentValue (l : Literal) : Int :=
  match l.exponent with
  | none => 0
  | some (minus, digits) =>
    let size := digits.foldl (fun n c => min exponentBound (n * 10 + digitValue c)) 0
    if minus then -(size : Int) else size

/-- The number that a literal stands for, or none if it is out of range. -/
def Literal.number? (l : Literal) : Option Number :=
  let (whole, _, left) := takeDigits 0 l.whole
  if left = 0 ∧ l.fraction.isNone ∧ l.exponent.isNone then
    if !l.minus then some (.natural whole)
    else if whole = 0 ∨ twoPow 63 < whole then
      (Binary64.ofRatio? whole 1).map (.real true)
    else some (.negative whole)
  else
    let (significand, taken, _) := takeDigits whole (l.fraction.getD [])
    let exponent := (left : Int) - taken + l.exponentValue
    if significand = 0 then some (.real l.minus ⟨0, Binary64.minExponent⟩)
    else (scaled? significand exponent).map (.real l.minus)

end ResourceStubs.Json
