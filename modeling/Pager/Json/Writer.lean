import Pager.Json.Basic
import Pager.Decimal.Notation

namespace Pager.Json

def hexDigit (n : Nat) : Char :=
  if n < 10 then Char.ofNat (48 + n) else Char.ofNat (87 + n)

/-- The escape of a control character without a short one. -/
def unicodeEscape (c : Char) : List Char :=
  ['\\', 'u', '0', '0', hexDigit (c.toNat / 16), hexDigit (c.toNat % 16)]

/-- A character inside a text. The quote, the backslash and the control characters are escaped and
nothing else is. -/
def escape (c : Char) : List Char :=
  if c = '"' then ['\\', '"']
  else if c = '\\' then ['\\', '\\']
  else if c = '\n' then ['\\', 'n']
  else if c = '\r' then ['\\', 'r']
  else if c = '\t' then ['\\', 't']
  else if c.toNat = 8 then ['\\', 'b']
  else if c.toNat = 12 then ['\\', 'f']
  else if c.toNat < 32 then unicodeEscape c
  else [c]

def quoted (s : String) : List Char :=
  '"' :: (s.toList.flatMap escape ++ ['"'])

def numberText : Number → List Char
  | .whole i => Decimal.intText i
  | .double x => Decimal.doubleText x

def boolText (b : Bool) : List Char :=
  if b then ['t', 'r', 'u', 'e'] else ['f', 'a', 'l', 's', 'e']

mutual

/-- The value on one line, without blanks. -/
def compact : Json → List Char
  | .null => ['n', 'u', 'l', 'l']
  | .bool b => boolText b
  | .number n => numberText n
  | .text s => quoted s
  | .list items => '[' :: (compactItems items ++ [']'])
  | .object fields => '{' :: (compactFields fields ++ ['}'])

def compactItems : List Json → List Char
  | [] => []
  | [v] => v.compact
  | v :: w :: vs => v.compact ++ ',' :: compactItems (w :: vs)

def compactFields : List (String × Json) → List Char
  | [] => []
  | [(k, v)] => quoted k ++ ':' :: v.compact
  | (k, v) :: field :: fields =>
    quoted k ++ ':' :: (v.compact ++ ',' :: compactFields (field :: fields))

end

def newLine (depth : Nat) : List Char :=
  '\n' :: List.replicate (2 * depth) ' '

mutual

/-- The value on as many lines as it has items, two blanks deeper inside each list and object. -/
def indented (depth : Nat) : Json → List Char
  | .list (v :: vs) => '[' :: (indentedItems (depth + 1) (v :: vs) ++ (newLine depth ++ [']']))
  | .object (field :: fields) =>
    '{' :: (indentedFields (depth + 1) (field :: fields) ++ (newLine depth ++ ['}']))
  | .list [] => ['[', ']']
  | .object [] => ['{', '}']
  | .null => ['n', 'u', 'l', 'l']
  | .bool b => boolText b
  | .number n => numberText n
  | .text s => quoted s

def indentedItems (depth : Nat) : List Json → List Char
  | [] => []
  | [v] => newLine depth ++ v.indented depth
  | v :: w :: vs => newLine depth ++ (v.indented depth ++ ',' :: indentedItems depth (w :: vs))

def indentedFields (depth : Nat) : List (String × Json) → List Char
  | [] => []
  | [(k, v)] => newLine depth ++ (quoted k ++ ':' :: ' ' :: v.indented depth)
  | (k, v) :: field :: fields =>
    newLine depth ++
      (quoted k ++ ':' :: ' ' ::
        (v.indented depth ++ ',' :: indentedFields depth (field :: fields)))

end

def toText (v : Json) : String :=
  String.ofList v.compact

def toIndentedText (v : Json) : String :=
  String.ofList (v.indented 0)

end Pager.Json
