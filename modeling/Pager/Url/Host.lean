import Pager.Text.Pieces
import Pager.Url.Domain.Basic
import Pager.Url.Fault
import Pager.Url.Percent

namespace Pager.Url

inductive Host
  | domain (name : String)
  | ipv4 (address : Nat)
  | ipv6 (pieces : List Nat)
  | opaqueName (name : String)
  deriving DecidableEq, Repr

/-- A part of an address in base ten, eight or sixteen. -/
def ipv4Number? (s : List Char) : Option Nat :=
  match s with
  | [] => none
  | '0' :: 'x' :: rest | '0' :: 'X' :: rest =>
    if rest.isEmpty then some 0 else Text.digitsIn? 16 rest
  | '0' :: d :: rest => Text.digitsIn? 8 (d :: rest)
  | digits => Text.digitsIn? 10 digits

/-- Whether the last part of a name looks like a number, so that the name has to be an address. -/
def endsInNumber (name : List Char) : Bool :=
  let parts := (Text.pieces '.' name).reverse
  let last := match parts with
    | [] :: before :: _ => before
    | [] :: [] => []
    | part :: _ => part
    | [] => []
  !last.isEmpty && (last.all Char.isDigit || (ipv4Number? last).isSome)

/-- All parts but the last are one byte each; the last one fills the bytes that are left. -/
def ipv4Address (parts : List Nat) : Option Nat :=
  match parts.reverse with
  | [] => none
  | last :: before =>
    let front := before.reverse
    if front.any (255 < ·) || Nat.pow 256 (4 - front.length) ≤ last then none
    else
      let weighted := front.zip [Nat.pow 256 3, Nat.pow 256 2, 256]
      some (weighted.foldl (fun sum (n, weight) => sum + n * weight) last)

def readIpv4 (name : List Char) : Except Fault Host :=
  let parts := Text.pieces '.' name
  let parts := if parts.getLast? = some [] then parts.dropLast else parts
  if 4 < parts.length then .error .badIpv4
  else match (parts.mapM ipv4Number?).bind ipv4Address with
    | some address => .ok (.ipv4 address)
    | none => .error .badIpv4

def ipv4Text (address : Nat) : String :=
  let byte (k : Nat) : String := toString (address / Nat.pow 256 k % 256)
  Text.joinWith "." [byte 3, byte 2, byte 1, byte 0]

/-- A decimal byte without a zero in front. -/
def decimalByte? (s : List Char) : Option Nat :=
  if s.length = 0 || 3 < s.length || (1 < s.length && s.head? = some '0') then none
  else (Text.digitsIn? 10 s).filter (· < 256)

/-- The last two pieces when they are written as four decimal bytes. -/
def embeddedIpv4? (s : List Char) : Option (List Nat) := do
  match ← (Text.pieces '.' s).mapM decimalByte? with
  | [a, b, c, d] => some [a * 256 + b, c * 256 + d]
  | _ => none

/-- The pieces between colons, the last of which may be four decimal bytes. -/
def ipv6Pieces? : List (List Char) → Option (List Nat)
  | [] => some []
  | [last] =>
    if last.contains '.' then embeddedIpv4? last
    else if 4 < last.length then none
    else (Text.digitsIn? 16 last).map ([·])
  | piece :: rest =>
    if 4 < piece.length then none
    else do
      let n ← Text.digitsIn? 16 piece
      let more ← ipv6Pieces? rest
      some (n :: more)

/-- Cuts at the first two colons in a row. -/
def cutAtDoubleColon : List Char → Option (List Char × List Char)
  | ':' :: ':' :: rest => some ([], rest)
  | c :: rest => (cutAtDoubleColon rest).map fun (before, after) => (c :: before, after)
  | [] => none

def sidePieces? (s : List Char) : Option (List Nat) :=
  if s.isEmpty then some [] else ipv6Pieces? (Text.pieces ':' s)

def readIpv6 (s : List Char) : Except Fault Host :=
  let pieces? : Option (List Nat) :=
    match cutAtDoubleColon s with
    | none => (sidePieces? s).filter (·.length = 8)
    | some (before, after) =>
      if before.contains '.' then none
      else do
        let front ← sidePieces? before
        let back ← sidePieces? after
        if front.length + back.length < 8 then
          some (front ++ List.replicate (8 - front.length - back.length) 0 ++ back)
        else none
  match pieces? with
  | some pieces => .ok (.ipv6 pieces)
  | none => .error .badIpv6

def zeroRun : List Nat → Nat
  | 0 :: rest => zeroRun rest + 1
  | _ => 0

/-- The place and length of the first longest run of zeros. -/
def longestZeroRun : List Nat → Nat → Nat × Nat → Nat × Nat
  | [], _, best => best
  | n :: rest, place, best =>
    let run := zeroRun (n :: rest)
    longestZeroRun rest (place + 1) (if best.2 < run then (place, run) else best)

def hexText (n : Nat) : String :=
  String.ofList (Nat.toDigits 16 n)

def ipv6Text (pieces : List Nat) : String :=
  let (place, run) := longestZeroRun pieces 0 (0, 0)
  let side (ns : List Nat) : String := Text.joinWith ":" (ns.map hexText)
  if run < 2 then side pieces
  else side (pieces.take place) ++ "::" ++ side (pieces.drop (place + run))

/-- The host of a special scheme. -/
def Host.ofText (s : List Char) : Except Fault Host :=
  match s with
  | '[' :: inside =>
    if inside.getLast? = some ']' then readIpv6 inside.dropLast else .error .badIpv6
  | _ =>
    match (Text.ofBytes? (decodeBytes s)).bind fun text => Domain.toAscii? text.toList with
    | none => .error .badDomainName
    | some name =>
      if name.isEmpty then .error .emptyHost
      else if endsInNumber name then readIpv4 name
      else .ok (.domain (String.ofList name))

def isForbiddenInOpaque (c : Char) : Bool :=
  c.toNat == 0 || "\t\n\r #/:<>?@[\\]^|".toList.contains c

/-- The host of a scheme that is not special. -/
def Host.ofOpaqueText (s : List Char) : Except Fault Host :=
  match s with
  | '[' :: inside =>
    if inside.getLast? = some ']' then readIpv6 inside.dropLast else .error .badIpv6
  | _ =>
    if s.any isForbiddenInOpaque then .error .badDomainCharacter
    else .ok (.opaqueName (String.ofList (encode isControl s)))

def Host.text : Host → String
  | .domain name => name
  | .ipv4 address => ipv4Text address
  | .ipv6 pieces => "[" ++ ipv6Text pieces ++ "]"
  | .opaqueName name => name

end Pager.Url
