import Pager.Json.Basic
import Pager.Text.Digits

namespace Pager.Json

def isSpace (c : Char) : Bool :=
  c == ' ' || c == '\n' || c == '\t' || c == '\r'

def skipSpace (s : List Char) : List Char :=
  s.dropWhile isSpace

/-- The largest significand that is kept in full while a number is read. -/
def significandLimit : Nat := Nat.pow 2 64 - 1

/-- The longest run of digits whose value stays within the limit, as value and count, and the
rest of the text. -/
def significand (value count : Nat) : List Char → Nat × Nat × List Char
  | [] => (value, count, [])
  | c :: cs =>
    if c.isDigit && value * 10 + Text.digitOf c ≤ significandLimit then
      significand (value * 10 + Text.digitOf c) (count + 1) cs
    else (value, count, c :: cs)

/-- Divides by `10 ^ 308` until the exponent is one of the table. -/
def scaleDown : Nat → Decimal.Double → Int → Option Decimal.Double
  | 0, x, _ => some (Decimal.Double.zero x.negative)
  | rounds + 1, x, exponent =>
    if x.isZero then some x
    else if exponent ≥ 309 then none
    else if exponent ≥ 0 then x.mul (Decimal.Double.powerOfTen exponent.toNat)
    else if exponent > -309 then x.div (Decimal.Double.powerOfTen (-exponent).toNat)
    else do scaleDown rounds (← x.div (Decimal.Double.powerOfTen 308)) (exponent + 308)

/-- The number of a significand and a power of ten: the rounded significand times or over the
rounded power. -/
def fromParts (negative : Bool) (digits : Nat) (exponent : Int) : Option Decimal.Double :=
  (scaleDown 5 (Decimal.Double.ofNat digits) exponent).map fun x => { x with negative }

/-- The exponent after its mark `e`; there must be a digit. -/
def exponentPart (negative : Bool) (value : Nat) (start : Int) (s : List Char) :
    Option (Decimal.Double × List Char) :=
  let (down, s) := match s with
    | '+' :: rest => (false, rest)
    | '-' :: rest => (true, rest)
    | rest => (false, rest)
  let digits := s.takeWhile Char.isDigit
  let rest := s.dropWhile Char.isDigit
  if digits.isEmpty then none
  else
    let e : Int := Text.decimalValue digits
    (fromParts negative value (if down then start - e else start + e)).map (·, rest)

/-- The fraction after its point; there must be a digit, and digits past the limit are dropped. -/
def fractionPart (negative : Bool) (value : Nat) (start : Int) (s : List Char) :
    Option (Decimal.Double × List Char) :=
  if (s.takeWhile Char.isDigit).isEmpty then none
  else
    let (value, count, _) := significand value 0 s
    let exponent := start - count
    match s.dropWhile Char.isDigit with
    | 'e' :: rest => exponentPart negative value exponent rest
    | 'E' :: rest => exponentPart negative value exponent rest
    | rest => (fromParts negative value exponent).map (·, rest)

/-- What a whole number without fraction and exponent stands for. -/
def wholeNumber (negative : Bool) (value : Nat) : Number :=
  if !negative then .whole value
  else if value = 0 then .double (Decimal.Double.zero true)
  else if value ≤ Nat.pow 2 63 then .whole (-(value : Int))
  else .double { Decimal.Double.ofNat value with negative := true }

/-- A number after its sign. -/
def unsigned (negative : Bool) (s : List Char) : Option (Number × List Char) := do
  let asDouble (r : Option (Decimal.Double × List Char)) : Option (Number × List Char) :=
    r.map fun (x, rest) => (.double x, rest)
  let afterDigits (value : Nat) (dropped : Nat) (rest : List Char) : Option (Number × List Char) :=
    match rest with
    | '.' :: rest => asDouble (fractionPart negative value dropped rest)
    | 'e' :: rest => asDouble (exponentPart negative value dropped rest)
    | 'E' :: rest => asDouble (exponentPart negative value dropped rest)
    | rest =>
      if dropped = 0 then some (wholeNumber negative value, rest)
      else asDouble ((fromParts negative value dropped).map (·, rest))
  match s with
  | '0' :: rest =>
    match rest with
    | c :: _ => if c.isDigit then none else afterDigits 0 0 rest
    | [] => afterDigits 0 0 rest
  | c :: _ =>
    if c.isDigit then
      let (value, _, rest) := significand 0 0 s
      let dropped := rest.takeWhile Char.isDigit
      afterDigits value dropped.length (rest.dropWhile Char.isDigit)
    else none
  | [] => none

def readNumber : List Char → Option (Number × List Char)
  | '-' :: rest => unsigned true rest
  | s => unsigned false s

def readHex4 : List Char → Option (Nat × List Char)
  | a :: b :: c :: d :: rest => (Text.digitsIn? 16 [a, b, c, d]).map fun unit => (unit, rest)
  | _ => none

/-- The character of an escape, without its backslash. Code units above the plane come in pairs. -/
def readEscape : List Char → Option (Char × List Char)
  | '"' :: rest => some ('"', rest)
  | '\\' :: rest => some ('\\', rest)
  | '/' :: rest => some ('/', rest)
  | 'b' :: rest => some (Char.ofNat 8, rest)
  | 'f' :: rest => some (Char.ofNat 12, rest)
  | 'n' :: rest => some ('\n', rest)
  | 'r' :: rest => some ('\r', rest)
  | 't' :: rest => some ('\t', rest)
  | 'u' :: rest => do
    let (unit, rest) ← readHex4 rest
    if 0xd800 ≤ unit && unit < 0xdc00 then
      match rest with
      | '\\' :: 'u' :: rest =>
        let (low, rest) ← readHex4 rest
        if 0xdc00 ≤ low && low < 0xe000 then
          some (Char.ofNat (0x10000 + (unit - 0xd800) * 0x400 + (low - 0xdc00)), rest)
        else none
      | _ => none
    else if 0xdc00 ≤ unit && unit < 0xe000 then none
    else some (Char.ofNat unit, rest)
  | _ => none

/-- The characters of a text up to its closing quote, in reverse before `done`. -/
def readChars : Nat → List Char → List Char → Option (List Char × List Char)
  | 0, _, _ => none
  | fuel + 1, done, s =>
    match s with
    | '"' :: rest => some (done.reverse, rest)
    | '\\' :: rest => do
      let (c, rest) ← readEscape rest
      readChars fuel (c :: done) rest
    | c :: rest => if c.toNat < 32 then none else readChars fuel (c :: done) rest
    | [] => none

def readQuoted (s : List Char) : Option (String × List Char) :=
  match s with
  | '"' :: rest =>
    (readChars (rest.length + 1) [] rest).map fun (cs, rest) => (String.ofList cs, rest)
  | _ => none

def keyword (word : String) (value : Json) (s : List Char) : Option (Json × List Char) :=
  let w := word.toList
  if s.take w.length = w then some (value, s.drop w.length) else none

mutual

/-- A value at the start of the text, with `depth` levels of nesting left below it. -/
def readValue : Nat → Nat → List Char → Option (Json × List Char)
  | 0, _, _ => none
  | fuel + 1, depth, s =>
    match skipSpace s with
    | 'n' :: rest => keyword "null" .null ('n' :: rest)
    | 't' :: rest => keyword "true" (.bool true) ('t' :: rest)
    | 'f' :: rest => keyword "false" (.bool false) ('f' :: rest)
    | '"' :: rest => (readQuoted ('"' :: rest)).map fun (t, rest) => (.text t, rest)
    | '[' :: rest =>
      if depth = 0 then none
      else match skipSpace rest with
        | ']' :: rest => some (.list [], rest)
        | rest => (readItems fuel (depth - 1) [] rest).map fun (vs, rest) => (.list vs, rest)
    | '{' :: rest =>
      if depth = 0 then none
      else match skipSpace rest with
        | '}' :: rest => some (.object [], rest)
        | rest => (readFields fuel (depth - 1) [] rest).map fun (fs, rest) => (.object fs, rest)
    | s => (readNumber s).map fun (n, rest) => (.number n, rest)

def readItems : Nat → Nat → List Json → List Char → Option (List Json × List Char)
  | 0, _, _, _ => none
  | fuel + 1, depth, done, s => do
    let (v, rest) ← readValue fuel depth s
    match skipSpace rest with
    | ',' :: rest => readItems fuel depth (v :: done) rest
    | ']' :: rest => some ((v :: done).reverse, rest)
    | _ => none

def readFields : Nat → Nat → Fields Json → List Char → Option (Fields Json × List Char)
  | 0, _, _, _ => none
  | fuel + 1, depth, done, s => do
    let (name, rest) ← readQuoted (skipSpace s)
    match skipSpace rest with
    | ':' :: rest =>
      let (v, rest) ← readValue fuel depth rest
      match skipSpace rest with
      | ',' :: rest => readFields fuel depth (Fields.put done name v) rest
      | '}' :: rest => some (Fields.put done name v, rest)
      | _ => none
    | _ => none

end

/-- The value that the whole text is, with blanks around it or none, nested at most to the given
depth. Of two fields with one name the later counts, and numbers beyond the binary ones are refused.
-/
def readWithin (depth : Nat) (s : String) : Option Json :=
  let chars := s.toList
  match readValue (2 * chars.length + 2) depth chars with
  | some (v, rest) => if (skipSpace rest).isEmpty then some v else none
  | none => none

/-- How deep lists and objects may nest in a page. -/
def pageDepth : Nat := 127

def read (s : String) : Option Json :=
  readWithin pageDepth s

end Pager.Json
