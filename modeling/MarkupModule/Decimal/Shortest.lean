import MarkupModule.Decimal.Power

/-! The shortest decimal that reads back as a given binary number. A positive number `m * 2 ^ q` stands
for all reals that round to it, an interval whose ends belong to it when `m` is even. Of the decimals in
the interval with the fewest digits the nearest one is taken. All arithmetic is exact. -/

namespace MarkupModule.Decimal

/-- A decimal number `digits * 10 ^ exponent`. -/
structure Scaled where
  digits : Nat
  exponent : Int
  deriving DecidableEq, Repr, Inhabited

/-- The interval of reals that round to a number, as numerators over a common denominator. -/
structure Interval where
  low : Nat
  value : Nat
  high : Nat
  denominator : Nat
  closed : Bool
  deriving DecidableEq, Repr, Inhabited

/-- The interval of `m * 2 ^ q`. At a power of two the numbers below are half as far apart, except at the
bottom of the range; `least` is the significand at a power of two and `bottom` the least exponent. -/
def interval (m : Nat) (q : Int) (least : Nat) (bottom : Int) : Interval :=
  let narrow := m == least && q != bottom
  -- in units of 2 ^ (q - 2)
  let low := 4 * m - (if narrow then 1 else 2)
  let high := 4 * m + 2
  let e := q - 2
  if 0 ≤ e then
    let scale := twoTo e.toNat
    ⟨low * scale, 4 * m * scale, high * scale, 1, m % 2 == 0⟩
  else ⟨low, 4 * m, high, twoTo (-e).toNat, m % 2 == 0⟩

def Interval.admits (i : Interval) (d : Scaled) : Bool :=
  let (numerator, denominator) :=
    if 0 ≤ d.exponent then (d.digits * tenTo d.exponent.toNat, 1)
    else (d.digits, tenTo (-d.exponent).toNat)
  let x := numerator * i.denominator
  let low := i.low * denominator
  let high := i.high * denominator
  (low < x && x < high) || (i.closed && (x == low || x == high))

/-- The two multiples of `10 ^ exponent` next to the value of an interval. -/
def Interval.neighbours (i : Interval) (exponent : Int) : Scaled × Scaled :=
  let floor :=
    if 0 ≤ exponent then i.value / (i.denominator * tenTo exponent.toNat)
    else i.value * tenTo (-exponent).toNat / i.denominator
  (⟨floor, exponent⟩, ⟨floor + 1, exponent⟩)

/-- Whether the value of an interval is at most halfway between its two neighbours of an exponent; at
the midpoint the even one is nearer. -/
def Interval.leansDown (i : Interval) (below : Scaled) : Bool :=
  let (twice, unit) :=
    if 0 ≤ below.exponent then
      (2 * i.value, i.denominator * tenTo below.exponent.toNat)
    else (2 * i.value * tenTo (-below.exponent).toNat, i.denominator)
  let middle := (2 * below.digits + 1) * unit
  twice < middle || (twice == middle && below.digits % 2 == 0)

/-- The decimal of an interval on the grid of an exponent, if there is one. -/
def Interval.onGrid? (i : Interval) (exponent : Int) : Option Scaled :=
  let (below, above) := i.neighbours exponent
  let lower := below.digits != 0 && i.admits below
  let upper := i.admits above
  if lower && upper then some (if i.leansDown below then below else above)
  else if lower then some below
  else if upper then some above
  else none

/-- The first decimal found on finer and finer grids. -/
def Interval.shortestFrom (i : Interval) : Nat → Int → Scaled
  | 0, exponent => (i.neighbours exponent).1
  | n + 1, exponent =>
    match i.onGrid? exponent with
    | some d => d
    | none => i.shortestFrom n (exponent - 1)

/-- The number of decimal digits of a number. -/
def digitCount (n : Nat) : Nat := (Nat.toDigits 10 n).length

/-- The decimal exponent just above the value of an interval, or a little more. -/
def Interval.topExponent (i : Interval) : Int :=
  (digitCount i.value : Int) - (digitCount i.denominator : Int) + 1

def Interval.shortest (i : Interval) : Scaled :=
  i.shortestFrom 24 i.topExponent

/-- The digits without zeros at their end, which raise the exponent. -/
def Scaled.normalize : Nat → Scaled → Scaled
  | 0, d => d
  | n + 1, d =>
    if d.digits % 10 = 0 && d.digits != 0 then Scaled.normalize n ⟨d.digits / 10, d.exponent + 1⟩
    else d

/-- The significand and exponent of a finite binary number of double size, given its bits without
sign. -/
def ofBits64 (bits : Nat) : Nat × Int :=
  let fraction : Nat := bits % twoTo 52
  let biased : Nat := bits / twoTo 52 % 2048
  if biased = 0 then (fraction, -1074) else (twoTo 52 + fraction, Int.ofNat biased - 1075)

/-- The shortest decimal for a positive finite number of double size. -/
def shortest64 (bits : Nat) : Scaled :=
  let (m, q) := ofBits64 bits
  ((interval m q (twoTo 52) (-1074)).shortest).normalize 400

end MarkupModule.Decimal
