import ResourceStubs.Decimal.Binary64

/-! The shortest decimal that rounds to a given binary number, and its usual written form. -/

namespace ResourceStubs.Decimal

/-- The number `digits · 10 ^ exponent`. -/
structure Scientific where
  digits : Nat
  exponent : Int
  deriving DecidableEq, Repr

/-- The numbers that round to `x`: the ratios of `low` and `high` to `unit` bound them, and the
bounds belong to them if `closed`. -/
structure Interval where
  low : Nat
  value : Nat
  high : Nat
  unit : Nat
  closed : Bool

/-- The numbers that round to a positive number. Below a power of two the gap is half as wide. -/
def Binary64.interval (x : Binary64) : Interval :=
  let below := if x.mantissa = twoPow 52 ∧ Binary64.minExponent < x.exponent then 1 else 2
  let scale (n : Nat) : Nat × Nat :=
    if 0 ≤ x.exponent then (n * twoPow x.exponent.toNat, 4) else (n, 4 * twoPow (-x.exponent).toNat)
  { low := (scale (4 * x.mantissa - below)).1
    value := (scale (4 * x.mantissa)).1
    high := (scale (4 * x.mantissa + 2)).1
    unit := (scale 0).2
    closed := x.mantissa % 2 = 0 }

/-- The point `n` of the grid `10 ^ e` lies in the interval. -/
def Interval.holds (i : Interval) (n : Nat) (e : Int) : Bool :=
  let (point, factor) := if 0 ≤ e then (n * tenPow e.toNat, 1) else (n, tenPow (-e).toNat)
  let spot := point * i.unit
  if i.closed then i.low * factor ≤ spot && spot ≤ i.high * factor
  else i.low * factor < spot && spot < i.high * factor

/-- The point of the grid `10 ^ e` nearest to the value among its two neighbours that lie in the
interval. -/
def Interval.nearest? (i : Interval) (e : Int) : Option Nat :=
  let (num, den) :=
    if 0 ≤ e then (i.value, i.unit * tenPow e.toNat) else (i.value * tenPow (-e).toNat, i.unit)
  let lower := num / den
  match i.holds lower e, i.holds (lower + 1) e with
  | true, true => some (Binary64.roundDiv num den)
  | true, false => some lower
  | false, true => some (lower + 1)
  | false, false => none

/-- The greatest `k` with `10 ^ k` at most the quotient of two positive numbers, sought among the
`fuel` numbers up from `k`. -/
def floorLogFrom (num den : Nat) : Nat → Int → Int
  | 0, k => k
  | fuel + 1, k =>
    let next := k + 1
    let reached :=
      if 0 ≤ next then den * tenPow next.toNat ≤ num else den ≤ num * tenPow (-next).toNat
    if reached then floorLogFrom num den fuel next else k

/-- The shortest decimal that rounds to a positive number; of several, the nearest. -/
def Binary64.shortest (x : Binary64) : Scientific :=
  let i := x.interval
  let k := floorLogFrom i.value i.unit 640 (-325)
  let grids := (List.range 17).filterMap fun (n : Nat) =>
    (i.nearest? (k - n)).map fun digits => (⟨digits, k - n⟩ : Scientific)
  grids.headD ⟨0, 0⟩

/-- Where positional notation ends: the greatest and the least power of ten of a leading digit that
is still written without an exponent. -/
structure PointStyle where
  maxLeading : Int
  minLeading : Int

/-- Up to sixteen digits before the point and up to four zeros behind it. -/
def jsonPointStyle : PointStyle := ⟨15, -5⟩

/-- The digits without the zeros at their end, and how many these were. -/
def trimZeros (digits : List Char) : List Char × Nat :=
  (((digits.reverse).dropWhile (· == '0')).reverse, (digits.reverse.takeWhile (· == '0')).length)

/-- The written form of a positive decimal. -/
def Scientific.text (style : PointStyle) (s : Scientific) : String :=
  let (digits, zeros) := trimZeros (Nat.repr s.digits).toList
  let exponent := s.exponent + zeros
  let leading := exponent + digits.length - 1
  let written :=
    if 0 ≤ exponent ∧ leading ≤ style.maxLeading then
      digits ++ List.replicate exponent.toNat '0' ++ ['.', '0']
    else if 0 ≤ leading ∧ leading ≤ style.maxLeading then
      digits.take (leading.toNat + 1) ++ '.' :: digits.drop (leading.toNat + 1)
    else if style.minLeading ≤ leading ∧ leading < 0 then
      '0' :: '.' :: List.replicate (-leading - 1).toNat '0' ++ digits
    else
      let tail := digits.drop 1
      digits.take 1 ++ (if tail.isEmpty then [] else '.' :: tail) ++
        'e' :: (toString leading).toList
  String.ofList written

end ResourceStubs.Decimal
