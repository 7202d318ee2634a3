import Pager.Text.Bytes
import Pager.Text.Digits

namespace Pager.Url

def upperHexDigit (n : Nat) : Char :=
  if n < 10 then Char.ofNat (48 + n) else Char.ofNat (55 + n)

def percentByte (b : UInt8) : List Char :=
  ['%', upperHexDigit (b.toNat / 16), upperHexDigit (b.toNat % 16)]

/-- The bytes of a character's UTF-8 form, each a percent sign and two capital hexadecimal digits.
-/
def percentChar (c : Char) : List Char :=
  (Text.toBytes (String.singleton c)).flatMap percentByte

/-- Encodes the characters that the test holds of, and every character outside ASCII. -/
def encode (reserved : Char → Bool) (s : List Char) : List Char :=
  s.flatMap fun c => if reserved c || 0x7f < c.toNat then percentChar c else [c]

def isControl (c : Char) : Bool :=
  c.toNat < 0x20 || c.toNat == 0x7f

def inFragment (c : Char) : Bool :=
  isControl c || c == ' ' || c == '"' || c == '<' || c == '>' || c == '\x60'

def inQuery (c : Char) : Bool :=
  isControl c || c == ' ' || c == '"' || c == '#' || c == '<' || c == '>'

def inSpecialQuery (c : Char) : Bool :=
  inQuery c || c == '\''

def inPath (c : Char) : Bool :=
  inFragment c || c == '#' || c == '?' || c == '{' || c == '}'

/-- Within one segment the slash and the percent sign are encoded as well. -/
def inSegment (c : Char) : Bool :=
  inPath c || c == '/' || c == '%'

def inSpecialSegment (c : Char) : Bool :=
  inSegment c || c == '\\'

def inUserInfo (c : Char) : Bool :=
  inPath c || "/:;=@[\\]^|".toList.contains c

/-- The bytes of a text with its percent escapes undone; a percent sign without two digits behind
it stands for itself. -/
def decodeBytes : List Char → Text.Bytes
  | [] => []
  | '%' :: a :: b :: rest =>
    match Text.digitsIn? 16 [a, b] with
    | some byte => UInt8.ofNat byte :: decodeBytes rest
    | none => 0x25 :: decodeBytes (a :: b :: rest)
  | c :: rest => Text.toBytes (String.singleton c) ++ decodeBytes rest

/-- The form encoding of a key or value: letters, digits and `*-._` stand for themselves, a blank
is a plus sign, and everything else is percent-encoded. -/
def formEncode (s : String) : List Char :=
  (Text.toBytes s).flatMap fun b =>
    let c := Char.ofNat b.toNat
    if c.isAlphanum || c == '*' || c == '-' || c == '.' || c == '_' then [c]
    else if c == ' ' then ['+']
    else percentByte b

end Pager.Url
