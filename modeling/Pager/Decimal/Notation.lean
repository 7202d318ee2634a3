import Pager.Decimal.Shortest

namespace Pager.Decimal

def natText (n : Nat) : List Char :=
  Nat.toDigits 10 n

def intText (i : Int) : List Char :=
  if i < 0 then '-' :: natText i.natAbs else natText i.natAbs

/-- Digits with the point after the first `whole` of them; zeros fill up both sides. -/
def plain (digits : List Char) (whole : Int) : List Char :=
  if whole ≤ 0 then
    '0' :: '.' :: (List.replicate (-whole).toNat '0' ++ digits)
  else
    let w := whole.toNat
    let left := digits.take w ++ List.replicate (w - digits.length) '0'
    let right := digits.drop w
    left ++ '.' :: (if right.isEmpty then ['0'] else right)

/-- One digit before the point, none after it when there is no other, and the exponent. -/
def scientific (digits : List Char) (power : Int) : List Char :=
  let mantissa := match digits with
    | [] => ['0']
    | [d] => [d]
    | d :: ds => d :: '.' :: ds
  let sign := if power < 0 then '-' else '+'
  mantissa ++ 'e' :: sign :: natText power.natAbs

/-- The shortest digits that read back: in plain notation, always with a fraction, from `1e-5` up to
but not including `1e16`, and else with an exponent that carries its sign outside. -/
def doubleText (x : Double) : List Char :=
  let sign := if x.negative then ['-'] else []
  if x.isZero then sign ++ ['0', '.', '0']
  else
    let d := x.shortest
    let digits := natText d.digits
    let power := d.exponent + digits.length - 1
    sign ++ if -5 ≤ power && power < 16 then plain digits (power + 1) else scientific digits power

end Pager.Decimal
