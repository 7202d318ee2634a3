namespace Pager.Decimal

/-- The number `± significand · 2 ^ exponent`, finite and of at most 53 significant bits. Below `2 ^
52` the significand goes with the least exponent only, so each magnitude has one form; zero keeps
its sign. -/
structure Double where
  negative : Bool
  significand : Nat
  exponent : Int
  deriving DecidableEq, Repr, Inhabited

namespace Double

/-- The exponent of the smallest numbers. -/
def leastExponent : Int := -1074

/-- The exponent of the largest numbers. -/
def greatestExponent : Int := 971

def zero (negative : Bool) : Double :=
  ⟨negative, 0, leastExponent⟩

/-- The quotient rounded to the nearest whole number, a half to the even one. -/
def roundQuotient (num den : Nat) : Nat :=
  let q := num / den
  let twice := 2 * (num % den)
  if twice < den then q
  else if den < twice then q + 1
  else if q % 2 = 0 then q else q + 1

/-- `num / den / 2 ^ e` as a fraction of whole numbers. -/
def scaled (num den : Nat) (e : Int) : Nat × Nat :=
  if 0 ≤ e then (num, den * Nat.pow 2 e.toNat) else (num * Nat.pow 2 (-e).toNat, den)

/-- The number nearest to `± num / den`, unless it lies beyond the largest. -/
def ofRatio (negative : Bool) (num den : Nat) : Option Double :=
  if num = 0 || den = 0 then some (zero negative)
  else
    let rough : Int := (num.log2 : Int) - den.log2 - 53
    let fits (e : Int) : Bool := let (n, d) := scaled num den e; n / d < Nat.pow 2 53
    let e := if fits rough then rough else if fits (rough + 1) then rough + 1 else rough + 2
    let e := max e leastExponent
    let (n, d) := scaled num den e
    let m := roundQuotient n d
    let (m, e) := if m = Nat.pow 2 53 then (Nat.pow 2 52, e + 1) else (m, e)
    if e > greatestExponent then none
    else if m = 0 then some (zero negative)
    else some ⟨negative, m, e⟩

/-- The magnitude as a fraction of whole numbers. -/
def ratio (x : Double) : Nat × Nat :=
  scaled x.significand 1 (-x.exponent)

def mul (x y : Double) : Option Double :=
  let (a, b) := x.ratio
  let (c, d) := y.ratio
  ofRatio (x.negative != y.negative) (a * c) (b * d)

def div (x y : Double) : Option Double :=
  let (a, b) := x.ratio
  let (c, d) := y.ratio
  ofRatio (x.negative != y.negative) (a * d) (b * c)

def isZero (x : Double) : Bool :=
  x.significand == 0

/-- The whole number `n`, rounded. -/
def ofNat (n : Nat) : Double :=
  (ofRatio false n 1).getD (zero false)

/-- The power `10 ^ k`, rounded; `k` is at most 308. -/
def powerOfTen (k : Nat) : Double :=
  ofNat (Nat.pow 10 k)

/-- The number `± digits · 10 ^ exponent`, rounded once. -/
def ofDecimal (negative : Bool) (digits : Nat) (exponent : Int) : Option Double :=
  if digits = 0 then some (zero negative)
  else if exponent > 400 then none
  else if exponent < -(400 + (digits.log2 : Int)) then some (zero negative)
  else if 0 ≤ exponent then ofRatio negative (digits * Nat.pow 10 exponent.toNat) 1
  else ofRatio negative digits (Nat.pow 10 (-exponent).toNat)

end Double

end Pager.Decimal
