namespace Pager.Text

abbrev Bytes := List UInt8

def toBytes (s : String) : Bytes :=
  s.toUTF8.toList

/-- The mark that stands for bytes that are no text. -/
def unreadable : Char := '\ufffd'

def isContinuation (b : UInt8) : Bool :=
  0x80 ≤ b && b ≤ 0xbf

/-- How many bytes the character takes that `b` begins, and the range of its second byte. -/
def leadInfo (b : UInt8) : Option (Nat × UInt8 × UInt8) :=
  if b < 0x80 then some (1, 0, 0)
  else if 0xc2 ≤ b && b ≤ 0xdf then some (2, 0x80, 0xbf)
  else if b = 0xe0 then some (3, 0xa0, 0xbf)
  else if b = 0xed then some (3, 0x80, 0x9f)
  else if 0xe1 ≤ b && b ≤ 0xef then some (3, 0x80, 0xbf)
  else if b = 0xf0 then some (4, 0x90, 0xbf)
  else if 0xf1 ≤ b && b ≤ 0xf3 then some (4, 0x80, 0xbf)
  else if b = 0xf4 then some (4, 0x80, 0x8f)
  else none

/-- The bytes after the lead byte that belong to the character begun, at most `wanted` of them;
`lo` and `hi` bound the first. -/
def takeTail : Nat → UInt8 → UInt8 → Bytes → Bytes
  | 0, _, _, _ => []
  | _, _, _, [] => []
  | n + 1, lo, hi, b :: bs => if lo ≤ b && b ≤ hi then b :: takeTail n 0x80 0xbf bs else []

/-- The character of a lead byte and its tail. -/
def assemble (lead : UInt8) (tail : Bytes) : Char :=
  let low := match tail.length with
    | 0 => lead.toNat
    | 1 => lead.toNat % 0x20
    | 2 => lead.toNat % 0x10
    | _ => lead.toNat % 0x08
  Char.ofNat (tail.foldl (fun n b => n * 0x40 + b.toNat % 0x40) low)

/-- The characters of the bytes and, with each, whether it was written in them. -/
def decode (bs : Bytes) : List (Char × Bool) :=
  match bs with
  | [] => []
  | b :: rest =>
    match leadInfo b with
    | none => (unreadable, false) :: decode rest
    | some (width, lo, hi) =>
      let tail := takeTail (width - 1) lo hi rest
      let char := if tail.length + 1 = width then (assemble b tail, true) else (unreadable, false)
      char :: decode (rest.drop tail.length)
  termination_by bs.length
  decreasing_by
    all_goals simp only [List.length_cons, List.length_drop]
    all_goals omega

/-- The text of the bytes, with `unreadable` for each maximal run of bytes that cannot begin or
continue a character. -/
def ofBytes (bs : Bytes) : String :=
  String.ofList ((decode bs).map Prod.fst)

/-- The text of the bytes when all of them are text. -/
def ofBytes? (bs : Bytes) : Option String :=
  let chars := decode bs
  if chars.all Prod.snd then some (String.ofList (chars.map Prod.fst)) else none

end Pager.Text
