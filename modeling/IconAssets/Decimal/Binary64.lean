/-!
# Binary floating point in exact arithmetic

A finite double is a sign, a significand below `2 ^ 53` and a power of two.  Every operation
computes the exact ratio and rounds it once: to the nearest double, a tie going to the even
significand, and to none when the ratio lies beyond the largest double.
-/

namespace IconAssets

/-- The finite double `significand * 2 ^ exponent`, with a sign. -/
structure Binary64 where
  negative : Bool
  significand : Nat
  exponent : Int
  deriving DecidableEq, Repr

namespace Binary64

/-- The exponent of the smallest doubles. -/
def minExponent : Int := -1074

/-- The exponent of the largest doubles. -/
def maxExponent : Int := 971

/-- Zero. -/
def zero : Binary64 := ⟨false, 0, minExponent⟩

/-- `num / den` rounded to the nearest number, a tie going to the even one. -/
def roundDiv (num den : Nat) : Nat :=
  let q := num / den
  let r := num % den
  if den < 2 * r || (2 * r = den && q % 2 = 1) then q + 1 else q

/-- `num / (den * 2 ^ e)` as a ratio of natural numbers. -/
def scaled (num den : Nat) (e : Int) : Nat × Nat :=
  if 0 ≤ e then (num, den * Nat.pow 2 e.toNat) else (num * Nat.pow 2 (-e).toNat, den)

/-- The least exponent at which the significand of `num / den` has at most 53 digits. -/
def exponentFor (num den : Nat) : Int :=
  let low : Int := (num.log2 : Int) - (den.log2 : Int) - 53
  let r := scaled num den low
  let e := if r.1 / r.2 < Nat.pow 2 53 then low else low + 1
  if e < minExponent then minExponent else e

/-- The positive double nearest to `num / den`, or zero; none beyond the largest double. -/
def ofRatio? (num den : Nat) : Option Binary64 :=
  if num = 0 then some zero
  else
    let e := exponentFor num den
    let r := scaled num den e
    let m := roundDiv r.1 r.2
    let (m, e) := if m = Nat.pow 2 53 then (Nat.pow 2 52, e + 1) else (m, e)
    if maxExponent < e then none else some ⟨false, m, e⟩

/-- The double as a ratio, its sign left out. -/
def ratio (f : Binary64) : Nat × Nat :=
  if 0 ≤ f.exponent then (f.significand * Nat.pow 2 f.exponent.toNat, 1)
  else (f.significand, Nat.pow 2 (-f.exponent).toNat)

/-- The rounded product, signs left out. -/
def mul? (f g : Binary64) : Option Binary64 :=
  ofRatio? (f.ratio.1 * g.ratio.1) (f.ratio.2 * g.ratio.2)

/-- The rounded quotient, signs left out. -/
def div? (f g : Binary64) : Option Binary64 :=
  ofRatio? (f.ratio.1 * g.ratio.2) (f.ratio.2 * g.ratio.1)

/-- The double nearest to a power of ten. -/
def powerOfTen? (n : Nat) : Option Binary64 := ofRatio? (Nat.pow 10 n) 1

/-- Divides by `10 ^ 308` until at most 308 powers of ten are left, then by the rest.  A value
that has become zero stays zero. -/
def divideDown : Nat → Binary64 → Nat → Option Binary64
  | 0, f, _ => some f
  | fuel + 1, f, n =>
    if n ≤ 308 then (powerOfTen? n).bind f.div?
    else if f.significand = 0 then some f
    else ((powerOfTen? 308).bind f.div?).bind fun g => divideDown fuel g (n - 308)

/-- A decimal with the given digits and exponent, read in steps: the digits are rounded to a
double, which is then multiplied or divided by rounded powers of ten.  The answer can differ from
the nearest double in its last bits. -/
def ofDecimal? (digits : Nat) (exponent : Int) : Option Binary64 :=
  (ofRatio? digits 1).bind fun f =>
    if 0 ≤ exponent then
      if exponent ≤ 308 then (powerOfTen? exponent.toNat).bind f.mul?
      else if digits = 0 then some f
      else none
    else divideDown ((-exponent).toNat / 308 + 1) f (-exponent).toNat

/-- The double with a given sign. -/
def withSign (f : Binary64) (negative : Bool) : Binary64 := { f with negative }

end Binary64

/-!
## Shortest decimals

The shortest decimal that reads back as a given double, and of several the nearest to it.

A double stands for all reals that round to it; they form an interval around it, which holds its
ends when the significand is even.  `shortest` goes through the grids of multiples of powers of
ten from coarse to fine and takes the first grid with a point in the interval: one of the two
neighbours of the double on that grid.
-/

namespace Binary64

/-- The reals that round to a double, as multiples of a quarter of its last place.  The gap to
the next double below is half as wide at a power of two. -/
structure Interval where
  low : Nat
  mid : Nat
  high : Nat
  closed : Bool

/-- The interval of a double. -/
def interval (f : Binary64) : Interval :=
  let m := 4 * f.significand
  let down := if f.significand = Nat.pow 2 52 && minExponent < f.exponent then 1 else 2
  ⟨m - down, m, m + 2, f.significand % 2 = 0⟩

/-- The number of quarters of the last place in `10 ^ k`, as a ratio. -/
def gridStep (f : Binary64) (k : Int) : Nat × Nat :=
  let e := f.exponent - 2
  let num := (if 0 ≤ k then Nat.pow 10 k.toNat else 1) * (if 0 ≤ e then 1 else Nat.pow 2 (-e).toNat)
  let den := (if 0 ≤ k then 1 else Nat.pow 10 (-k).toNat) * (if 0 ≤ e then Nat.pow 2 e.toNat else 1)
  (num, den)

/-- Whether `d` steps of a grid lie in an interval. -/
def Interval.holds (i : Interval) (step : Nat × Nat) (d : Nat) : Bool :=
  let x := d * step.1
  if i.closed then i.low * step.2 ≤ x && x ≤ i.high * step.2
  else i.low * step.2 < x && x < i.high * step.2

/-- The point of a grid that lies in the interval of a double: of its two neighbours the nearer
one, in a tie the even one. -/
def gridPoint? (f : Binary64) (k : Int) : Option Nat :=
  let i := f.interval
  let step := f.gridStep k
  let below := i.mid * step.2 / step.1
  match i.holds step below, i.holds step (below + 1) with
  | true, true =>
    let toBelow := i.mid * step.2 - below * step.1
    let toAbove := (below + 1) * step.1 - i.mid * step.2
    if toBelow < toAbove || (toBelow = toAbove && below % 2 = 0) then some below
    else some (below + 1)
  | true, false => some below
  | false, true => some (below + 1)
  | false, false => none

/-- A power of ten above a positive double. -/
def powerAbove (f : Binary64) : Int :=
  let r := f.ratio
  if r.2 ≤ r.1 then (Nat.toDigits 10 (r.1 / r.2)).length
  else 2 - (Nat.toDigits 10 (r.2 / r.1)).length

/-- The first grid with a point for the double, going down from `10 ^ k`. -/
def searchGrids (f : Binary64) : Nat → Int → Nat × Int
  | 0, k => (0, k)
  | fuel + 1, k =>
    match f.gridPoint? k with
    | some d => (d, k)
    | none => searchGrids f fuel (k - 1)

/-- The digits and the exponent of the shortest decimal that reads back as a positive double. -/
def shortest (f : Binary64) : Nat × Int := searchGrids f 20 f.powerAbove

end Binary64

end IconAssets
