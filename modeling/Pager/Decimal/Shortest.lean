import Pager.Decimal.Double

namespace Pager.Decimal

namespace Double

/-- A quarter of a unit in the last place as a fraction, and the number counted in such quarters;
the reals that round to the number lie between `lower` and `upper` quarters, the two ends included
when `closed`. -/
structure Interval where
  quarter : Nat × Nat
  lower : Nat
  middle : Nat
  upper : Nat
  closed : Bool

def interval (x : Double) : Interval :=
  let m := x.significand
  let narrow := m == Nat.pow 2 52 && leastExponent < x.exponent
  { quarter := scaled 1 1 (2 - x.exponent)
    lower := if narrow then 4 * m - 1 else 4 * m - 2
    middle := 4 * m
    upper := 4 * m + 2
    closed := m % 2 == 0 }

/-- Whether the fraction `num / den` lies in the interval. -/
def Interval.holds (i : Interval) (num den : Nat) : Bool :=
  let here := num * i.quarter.2
  let unit := i.quarter.1 * den
  let low := i.lower * unit
  let high := i.upper * unit
  if i.closed then low ≤ here && here ≤ high else low < here && here < high

/-- Digits and the power of ten of the last one. -/
structure Digits where
  digits : Nat
  exponent : Int
  deriving DecidableEq, Repr

/-- `d · 10 ^ g` as a fraction of whole numbers. -/
def gridPoint (d : Nat) (g : Int) : Nat × Nat :=
  if 0 ≤ g then (d * Nat.pow 10 g.toNat, 1) else (d, Nat.pow 10 (-g).toNat)

/-- The point of the grid `10 ^ g` that stands for the number: of its two neighbours on the grid
one that reads back, the nearer if both do, and the even one if they are equally near. -/
def onGrid? (x : Double) (g : Int) : Option Digits :=
  let i := x.interval
  let (num, den) := (i.middle * i.quarter.1, i.quarter.2)
  let (n, d) :=
    if 0 ≤ g then (num, den * Nat.pow 10 g.toNat) else (num * Nat.pow 10 (-g).toNat, den)
  let below := n / d
  let above := below + 1
  let fits (k : Nat) : Bool := let (a, b) := gridPoint k g; i.holds a b
  let twice := 2 * (n % d)
  match fits below, fits above with
  | true, true =>
    if twice < d then some ⟨below, g⟩
    else if d < twice then some ⟨above, g⟩
    else if below % 2 = 0 then some ⟨below, g⟩ else some ⟨above, g⟩
  | true, false => some ⟨below, g⟩
  | false, true => some ⟨above, g⟩
  | false, false => none

/-- How many decimal digits `n` has. -/
def digitCount (n : Nat) : Nat :=
  (Nat.toDigits 10 n).length

/-- The power of ten of the first digit: `10 ^ k ≤ x < 10 ^ (k + 1)` for a number that is not
zero. -/
def leadingPower (x : Double) : Int :=
  let (num, den) := x.ratio
  let k : Int := (digitCount num : Int) - digitCount den
  let (n, d) :=
    if 0 ≤ k then (num, den * Nat.pow 10 k.toNat) else (num * Nat.pow 10 (-k).toNat, den)
  if n < d then k - 1 else k

/-- Tries one digit, then two, and so on, up to `tries` more than `count`. -/
def shortestFrom (x : Double) (lead : Int) : Nat → Nat → Digits
  | 0, _ => ⟨0, 0⟩
  | tries + 1, count =>
    match x.onGrid? (lead - count) with
    | some digits => digits
    | none => shortestFrom x lead tries (count + 1)

/-- Drops zeros at the end, at most `tries` of them. -/
def Digits.strip (d : Digits) : Nat → Digits
  | 0 => d
  | tries + 1 =>
    if d.digits % 10 = 0 && d.digits ≠ 0 then
      Digits.strip ⟨d.digits / 10, d.exponent + 1⟩ tries
    else d

/-- The shortest digits of the magnitude that read back, and of those the nearest to it; seventeen
always suffice. -/
def shortest (x : Double) : Digits :=
  if x.isZero then ⟨0, 0⟩ else (shortestFrom x x.leadingPower 18 0).strip 20

end Double

end Pager.Decimal
