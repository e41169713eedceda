/-!
# Single-precision numbers and their shortest decimal text

Luminance parameters are binary32 numbers. They are kept as bit patterns, so a NaN keeps its
payload and the sign of zero is visible.

* `Binary32.isFinite`, `Binary32.isPositive`: the two tests that a luminance has to pass.
* `Binary32.eqv`: equality of numbers (`-0` equals `0`, a NaN equals nothing).
* `Binary32.shortest?`: the decimal with the fewest digits that reads back as the number. It is
  found in exact arithmetic: the coarsest power-of-ten grid with a point in the interval of reals
  that round to the number.
* `Binary32.text`: the number in positional notation, never with an exponent.
-/

namespace ImageDispatch

/-- A binary32 number, as its bit pattern. -/
structure Binary32 where
  /-- Sign in bit 31, biased exponent in bits 30 to 23, fraction below. -/
  bits : UInt32
  deriving DecidableEq, Inhabited

/-- The decimal `digits * 10 ^ exponent`. -/
structure Decimal where
  /-- All significant digits, as one number. -/
  digits : Nat
  /-- Power of ten of the last digit. -/
  exponent : Int
  deriving DecidableEq

/-- A decimal in positional notation: zeros fill the places up to the point, or the places
between the point and the first digit. -/
def Decimal.text (d : Decimal) : String :=
  let digits := toString d.digits
  if 0 ≤ d.exponent then digits ++ "".pushn '0' d.exponent.toNat
  else
    let places := (-d.exponent).toNat
    let padded := "".pushn '0' (places + 1 - digits.length) ++ digits
    let whole := padded.length - places
    (padded.take whole).copy ++ "." ++ (padded.drop whole).copy

namespace Binary32

/-- The sign bit. -/
def isNegative (x : Binary32) : Bool := 1 <<< 31 ≤ x.bits.toNat

/-- The biased exponent. -/
def biasedExponent (x : Binary32) : Nat := x.bits.toNat / (1 <<< 23) % (1 <<< 8)

/-- The fraction bits. -/
def fraction (x : Binary32) : Nat := x.bits.toNat % (1 <<< 23)

/-- Neither infinite nor a NaN. -/
def isFinite (x : Binary32) : Bool := x.biasedExponent ≠ 255

/-- Not a number. -/
def isNaN (x : Binary32) : Bool := x.biasedExponent = 255 ∧ x.fraction ≠ 0

/-- Zero of either sign. -/
def isZero (x : Binary32) : Bool := x.biasedExponent = 0 ∧ x.fraction = 0

/-- Greater than zero; a NaN is not. -/
def isPositive (x : Binary32) : Bool := !x.isNegative && !x.isZero && !x.isNaN

/-- Equal as numbers. -/
def eqv (x y : Binary32) : Bool := !x.isNaN && !y.isNaN && (x = y || x.isZero && y.isZero)

/-- The integer significand: a finite number is `± significand * 2 ^ scale`. -/
def significand (x : Binary32) : Nat :=
  if x.biasedExponent = 0 then x.fraction else (1 <<< 23) + x.fraction

/-- The power of two of the last significand bit. -/
def scale (x : Binary32) : Int :=
  if x.biasedExponent = 0 then -149 else (x.biasedExponent : Int) - 150

/-- The gap below a power of two is half the gap above it, except at the bottom of the range. -/
def gapBelowIsHalf (x : Binary32) : Bool := x.fraction = 0 ∧ 1 < x.biasedExponent

/-! ## Shortest decimal -/

/-- A positive rational `num / den`, with the ends of the interval that rounds to it, all over
`4 * den`. -/
structure Interval where
  /-- Four times the value. -/
  value : Nat
  /-- Lower end. -/
  low : Nat
  /-- Upper end. -/
  high : Nat
  /-- Common denominator. -/
  den : Nat
  /-- The ends round to the value too. -/
  closed : Bool

/-- The reals that round to the magnitude of a finite number: half a gap to either side, with
the ends if the significand is even. -/
def interval (x : Binary32) : Interval :=
  let m := x.significand
  let up := 1 <<< x.scale.toNat
  { value := 4 * m * up
    low := (4 * m - if x.gapBelowIsHalf then 1 else 2) * up
    high := (4 * m + 2) * up
    den := 4 * (1 <<< (-x.scale).toNat)
    closed := m % 2 = 0 }

/-- `n * 10 ^ k` lies in the interval. -/
def Interval.contains (i : Interval) (n : Nat) (k : Int) : Bool :=
  let point := n * Nat.pow 10 k.toNat * i.den
  let down := Nat.pow 10 (-k).toNat
  if i.closed then i.low * down ≤ point ∧ point ≤ i.high * down
  else i.low * down < point ∧ point < i.high * down

/-- The point of the grid `10 ^ k` that lies in the interval, if one does: the nearer of the two
neighbours of the value, the upper one on a tie. -/
def Interval.onGrid? (i : Interval) (k : Int) : Option Decimal :=
  let num := i.value * Nat.pow 10 (-k).toNat
  let den := i.den * Nat.pow 10 k.toNat
  let n := num / den
  let upper : Option Decimal := if i.contains (n + 1) k then some ⟨n + 1, k⟩ else none
  if i.contains n k then
    if 2 * (num % den) < den then some ⟨n, k⟩ else upper.or (some ⟨n, k⟩)
  else upper

/-- The coarsest of the grids `10 ^ k`, `10 ^ (k - 1)`, … with a point in the interval. -/
def Interval.coarsest? (i : Interval) : Nat → Int → Option Decimal
  | 0, _ => none
  | steps + 1, k => (i.onGrid? k).or (i.coarsest? steps (k - 1))

/-- The shortest decimal that reads back as the magnitude of a finite number that is not zero.
The grids tried reach from above the largest number to below half the smallest one. -/
def shortest? (x : Binary32) : Option Decimal := x.interval.coarsest? 90 40

/-! ## Text -/

/-- A number in positional notation, with the fewest digits that read back. -/
def text (x : Binary32) : String :=
  if x.isNaN then "NaN"
  else
    let magnitude :=
      if !x.isFinite then "inf"
      else if x.isZero then "0"
      else (x.shortest?.map Decimal.text).getD "0"
    if x.isNegative then "-" ++ magnitude else magnitude

end Binary32

end ImageDispatch
