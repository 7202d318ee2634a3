namespace Pager.Text

/-- The value of a digit in a base of at most 36; letters count on from nine in either case. -/
def digitIn? (base : Nat) (c : Char) : Option Nat :=
  let value? :=
    if c.isDigit then some (c.toNat - 48)
    else if 'a' ≤ c && c ≤ 'z' then some (c.toNat - 87)
    else if 'A' ≤ c && c ≤ 'Z' then some (c.toNat - 55)
    else none
  value?.filter (· < base)

/-- The value of one or more digits. -/
def digitsIn? (base : Nat) (s : List Char) : Option Nat :=
  if s.isEmpty then none
  else s.foldlM (fun n c => (digitIn? base c).map (n * base + ·)) 0

def digitOf (c : Char) : Nat :=
  c.toNat - 48

/-- The value of decimal digits, zero when there are none. -/
def decimalValue (digits : List Char) : Nat :=
  digits.foldl (fun n c => n * 10 + digitOf c) 0

/-- Decimal digits behind a plus sign or none, with a value below `limit`. -/
def natBelow? (limit : Nat) (s : List Char) : Option Nat :=
  let digits := match s with
    | '+' :: rest => rest
    | all => all
  if digits.isEmpty || !digits.all Char.isDigit then none
  else
    let n := decimalValue digits
    if n < limit then some n else none

/-- A whole number of so many bits in decimal, behind a sign or none. -/
def intWithin? (bits : Nat) (s : List Char) : Option Int :=
  match s with
  | '-' :: '+' :: _ => none
  | '-' :: digits => (natBelow? (Nat.pow 2 (bits - 1) + 1) digits).map fun n => -(n : Int)
  | digits => (natBelow? (Nat.pow 2 (bits - 1)) digits).map fun n => (n : Int)

end Pager.Text
