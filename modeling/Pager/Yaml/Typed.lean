import Pager.Json.Basic
import Pager.Text.Digits

namespace Pager.Yaml

def isNullText (s : String) : Bool :=
  s = "null" || s = "Null" || s = "NULL" || s = "~"

def boolOf? (s : String) : Option Bool :=
  if s = "true" || s = "True" || s = "TRUE" then some true
  else if s = "false" || s = "False" || s = "FALSE" then some false
  else none

def isSign (c : Char) : Bool :=
  c == '+' || c == '-'

def beginsWithSign (s : List Char) : Bool :=
  match s with
  | c :: _ => isSign c
  | [] => false

def dropSign (s : List Char) : List Char :=
  if beginsWithSign s then s.drop 1 else s

/-- Decimal digits with a zero in front of others. -/
def hasLeadingZero (s : List Char) : Bool :=
  match dropSign s with
  | '0' :: d :: ds => (d :: ds).all Char.isDigit
  | _ => false

/-- A whole number that is not negative, below `limit`. -/
def natOf? (limit : Nat) (s : List Char) : Option Nat :=
  let bare := match s with
    | '+' :: rest => rest
    | all => all
  let inBase (base : Nat) (rest : List Char) : Option Nat :=
    if beginsWithSign rest then none else (Text.digitsIn? base rest).filter (· < limit)
  let decimal : Option Nat :=
    if beginsWithSign bare || hasLeadingZero s then none
    else (Text.digitsIn? 10 bare).filter (· < limit)
  match bare with
  | '0' :: 'x' :: rest => inBase 16 rest
  | '0' :: 'o' :: rest => inBase 8 rest
  | '0' :: 'b' :: rest => inBase 2 rest
  | _ => decimal

/-- A negative whole number, or zero with a minus sign, not below `-limit`. -/
def negativeOf? (limit : Nat) (s : List Char) : Option Int :=
  let inBase (base : Nat) (rest : List Char) : Option Int :=
    ((Text.digitsIn? base rest).filter (· ≤ limit)).map fun n => -(n : Int)
  match s with
  | '-' :: '0' :: 'x' :: rest => inBase 16 rest
  | '-' :: '0' :: 'o' :: rest => inBase 8 rest
  | '-' :: '0' :: 'b' :: rest => inBase 2 rest
  | '-' :: rest => if hasLeadingZero s then none else inBase 10 rest
  | _ => none

/-- What a text is as a binary number. -/
inductive DoubleText
  | finite (x : Decimal.Double)
  | notFinite
  | noNumber

def isInfinityText (s : String) : Bool :=
  s = ".inf" || s = ".Inf" || s = ".INF"

def isNotNumberText (s : String) : Bool :=
  s = ".nan" || s = ".NaN" || s = ".NAN"

/-- Digits, with a point somewhere or none, and an exponent or none; at least one digit. -/
def finiteDouble? (s : List Char) : Option Decimal.Double := do
  let negative := s.head? = some '-'
  let s := dropSign s
  let whole := s.takeWhile Char.isDigit
  let rest := s.dropWhile Char.isDigit
  let (fraction, rest) := match rest with
    | '.' :: rest => (rest.takeWhile Char.isDigit, rest.dropWhile Char.isDigit)
    | rest => ([], rest)
  if whole.isEmpty && fraction.isEmpty then none
  else
    let exponent ← match rest with
      | [] => some 0
      | e :: rest =>
        if e == 'e' || e == 'E' then
          let down := rest.head? = some '-'
          let digits := dropSign rest
          if digits.isEmpty || !digits.all Char.isDigit then none
          else some (if down then -(Text.decimalValue digits : Int) else Text.decimalValue digits)
        else none
    Decimal.Double.ofDecimal negative (Text.decimalValue (whole ++ fraction))
      (exponent - fraction.length)

def doubleOf (s : String) : DoubleText :=
  let chars := s.toList
  let bare := match chars with
    | '+' :: rest => rest
    | all => all
  if chars.head? = some '+' && beginsWithSign bare then .noNumber
  else if isInfinityText (String.ofList bare) then .notFinite
  else if chars.head? = some '-' && isInfinityText (String.ofList (chars.drop 1)) then .notFinite
  else if isNotNumberText s then .notFinite
  else match finiteDouble? bare with
    | some x => .finite x
    | none => .noNumber

/-- The whole number a text stands for; `none` inside means that it has more than 64 bits. -/
def wholeOf? (s : String) : Option (Option Int) :=
  let chars := s.toList
  match natOf? (Nat.pow 2 64) chars with
  | some n => some (some n)
  | none =>
    match negativeOf? (Nat.pow 2 63) chars with
    | some i => some (some i)
    | none =>
      let isWhole :=
        (natOf? (Nat.pow 2 128) chars).isSome || (negativeOf? (Nat.pow 2 127) chars).isSome
      if isWhole then some none else none

/-- The JSON value of a plain scalar without a tag, unless it is a number of more than 64 bits:
null, a truth value, a whole number in one of four bases or a binary number, and else a text. -/
def plainValue (s : String) : Option Json :=
  if s = "" || isNullText s then some .null
  else match boolOf? s with
    | some b => some (.bool b)
    | none =>
      match wholeOf? s with
      | some whole => whole.map fun i => .number (.whole i)
      | none =>
        if hasLeadingZero s.toList then some (.text s)
        else match doubleOf s with
          | .finite x => some (.number (.double x))
          | .notFinite => some .null
          | .noNumber => some (.text s)

end Pager.Yaml
