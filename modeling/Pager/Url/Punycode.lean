import Pager.Text.Letters

namespace Pager.Url.Punycode

def digitChar (d : Nat) : Char :=
  if d < 26 then Char.ofNat (97 + d) else Char.ofNat (22 + d)

def digitValue? (c : Char) : Option Nat :=
  if 'a' ≤ c && c ≤ 'z' then some (c.toNat - 97)
  else if 'A' ≤ c && c ≤ 'Z' then some (c.toNat - 65)
  else if c.isDigit then some (c.toNat - 22)
  else none

/-- The threshold of the digit at place `k`, a multiple of 36. -/
def threshold (k bias : Nat) : Nat :=
  if k ≤ bias then 1 else if bias + 26 ≤ k then 26 else k - bias

def adaptLoop : Nat → Nat → Nat → Nat
  | 0, _, k => k
  | fuel + 1, delta, k =>
    if 455 < delta then adaptLoop fuel (delta / 35) (k + 36) else k + 36 * delta / (delta + 38)

/-- The bias after a step of the given size, when `count` characters are there. -/
def adapt (delta count : Nat) (first : Bool) : Nat :=
  let delta := if first then delta / 700 else delta / 2
  adaptLoop 64 (delta + delta / count) 0

/-- The digits of one step. -/
def encodeStep (bias : Nat) : Nat → Nat → Nat → List Char
  | 0, _, _ => []
  | fuel + 1, k, q =>
    let t := threshold k bias
    if q < t then [digitChar q]
    else digitChar (t + (q - t) % (36 - t)) :: encodeStep bias fuel (k + 36) ((q - t) / (36 - t))

/-- One pass over the label for the character of code `n`: digits, what is carried over, the bias
and how many characters are handled. -/
def encodePass (label : List Nat) (n basic : Nat) (delta bias handled : Nat) :
    List Char × Nat × Nat × Nat :=
  label.foldl (fun (out, delta, bias, handled) c =>
    if c < n then (out, delta + 1, bias, handled)
    else if c = n then
      let digits := encodeStep bias 64 36 delta
      (out ++ digits, 0, adapt delta (handled + 1) (handled == basic), handled + 1)
    else (out, delta, bias, handled)) ([], delta, bias, handled)

def encodeLoop (label : List Nat) (basic : Nat) : Nat → Nat → Nat → Nat → Nat → List Char
  | 0, _, _, _, _ => []
  | fuel + 1, n, delta, bias, handled =>
    if label.length ≤ handled then []
    else
      let larger := label.filter (n ≤ ·)
      let m := larger.foldl min (larger.headD n)
      let delta := delta + (m - n) * (handled + 1)
      let (out, delta, bias, handled) := encodePass label m basic delta bias handled
      out ++ encodeLoop label basic fuel (m + 1) (delta + 1) bias handled

/-- The ASCII form of a label, without the mark in front. The characters outside ASCII are inserted
in rising order; each step is a number in 36 digits whose thresholds adapt to the steps before. -/
def encode (label : List Char) : List Char :=
  let basic := label.filter Text.isAscii
  let start := if basic.isEmpty then [] else basic ++ ['-']
  let codes := label.map Char.toNat
  start ++ encodeLoop codes basic.length (codes.length + 1) 0x80 0 72 basic.length

/-- The numbers of a step have 32 bits. -/
def fits? (n : Nat) : Option Nat :=
  if n < 0x100000000 then some n else none

/-- Reads one step: the position it leads to and the rest of the digits. -/
def decodeStep (bias : Nat) : List Char → Nat → Nat → Nat → Option (Nat × List Char)
  | [], _, _, _ => none
  | c :: rest, i, w, k => do
    let d ← digitValue? c
    let i ← fits? (i + d * w)
    let t := threshold k bias
    if d < t then some (i, rest) else decodeStep bias rest i (← fits? (w * (36 - t))) (k + 36)

def decodeLoop : Nat → List Char → List Char → Nat → Nat → Nat → Option (List Char)
  | 0, _, _, _, _, _ => none
  | _, [], label, _, _, _ => some label
  | fuel + 1, digits, label, n, i, bias => do
    let (j, rest) ← decodeStep bias digits i 1 36
    let count := label.length + 1
    let n := n + j / count
    let place := j % count
    if 0x10ffff < n || (0xd800 ≤ n && n ≤ 0xdfff) then none
    else
      decodeLoop fuel rest (label.take place ++ Char.ofNat n :: label.drop place) n (place + 1)
        (adapt (j - i) count (i == 0))

/-- The label behind its ASCII form. Without a character in front of it, a hyphen parts nothing and
is no digit. -/
def decode (s : List Char) : Option (List Char) :=
  let back := s.reverse
  let digits := (back.takeWhile (· ≠ '-')).reverse
  let basic := ((back.dropWhile (· ≠ '-')).drop 1).reverse
  if s.head? = some '-' && basic.isEmpty then none
  else decodeLoop (s.length + 1) digits basic 0x80 0 72

end Pager.Url.Punycode
