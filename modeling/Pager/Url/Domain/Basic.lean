import Pager.Url.Domain.Composition
import Pager.Url.Domain.Joining
import Pager.Url.Domain.Mapping
import Pager.Url.Punycode

namespace Pager.Url.Domain

/-- The ASCII characters that may not stand in a domain name. -/
def isForbidden (c : Char) : Bool :=
  c.toNat ≤ 0x20 || c.toNat == 0x7f || "#%/:<>?@[\\]^|".toList.contains c

/-- A label in ASCII, and as it is shown. -/
structure Label where
  written : List Char
  shown : List Char
  deriving DecidableEq, Repr

/-- What an ASCII form begins with. -/
def marker : List Char := "xn--".toList

/-- The longest ASCII form that is read, without its marker, and the longest label that is written
in one. -/
def maxWritten : Nat := 2000
def maxShown : Nat := 1000

/-- Whether a label outside ASCII is sound: it does not begin with a mark, and joins letters only
where they join. -/
def isSound (shown : List Char) : Bool :=
  !(shown.head?.any isMark) && joinersFit [] shown && shown.length ≤ maxShown

/-- The label an ASCII form stands for: one that is not in ASCII, already mapped and composed, and
sound. -/
def unwritten? (s : List Char) : Option (List Char) := do
  if s.getLast? = some '-' || maxWritten < s.length then none
  else
    let shown ← Punycode.decode s
    if shown.all Text.isAscii || !shown.all isKept || shown.any (fun c => c == '.' || isForbidden c)
        || composed shown != shown || !isSound shown then none
    else some shown

/-- The label of a mapped and composed text without dots. -/
def label? (s : List Char) : Option Label :=
  match Text.afterPrefix marker s with
  | some rest =>
    if s.all Text.isAscii then (unwritten? rest).map fun shown => ⟨s, shown⟩ else none
  | none =>
    if s.all Text.isAscii then some ⟨s, s⟩
    else if isSound s then some ⟨marker ++ Punycode.encode s, s⟩
    else none

/-- The ASCII form of a domain name. The name is mapped, composed and cut at its dots; a label with
characters outside ASCII has an ASCII form, and a label in that form has to stand for one that needs
it. -/
def toAscii? (name : List Char) : Option (List Char) := do
  let mapped := composed (← name.mapM mapChar?).flatten
  if mapped.any isForbidden then none
  else
    let labels ← (Text.pieces '.' mapped).mapM label?
    let shown := labels.map Label.shown
    if shown.any isBidirectional && !shown.all keepsDirection then none
    else some (Text.join '.' (labels.map Label.written))

end Pager.Url.Domain
