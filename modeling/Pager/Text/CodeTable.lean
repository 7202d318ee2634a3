import Pager.Text.Digits
import Pager.Text.Pieces

namespace Pager.Text

/-- The entries of a table's text, which stand between blanks and line breaks. The code points in
them are hexadecimal. -/
def tableEntries (s : String) : List (List Char) :=
  let oneLine := s.toList.map fun c => if c == '\n' then ' ' else c
  (pieces ' ' oneLine).filter fun entry => !entry.isEmpty

/-- The code points from `first` to `last`. -/
structure Span where
  first : Nat
  last : Nat
  deriving DecidableEq, Repr

def Span.holds (s : Span) (c : Char) : Bool :=
  s.first ≤ c.toNat && c.toNat ≤ s.last

/-- A span as `first-last`, with the given mark between the two, or as its single code point. -/
def span? (mark : Char) (s : List Char) : Option Span :=
  match cutAt mark s with
  | some (first, last) => do some ⟨← digitsIn? 16 first, ← digitsIn? 16 last⟩
  | none => (digitsIn? 16 s).map fun n => ⟨n, n⟩

/-- A set of characters as the spans it consists of. -/
def spans (s : String) : List Span :=
  (tableEntries s).filterMap (span? '-')

def isIn (table : List Span) (c : Char) : Bool :=
  table.any fun span => span.holds c

/-- What stands for the characters of a span. -/
inductive Substitution
  /-- Every `step`-th character is moved as far as the first one, which goes to `image`. -/
  | moved (span : Span) (step image : Nat)
  /-- The characters from `first` on have the images listed, one each. -/
  | listed (first : Nat) (images : List (List Char))
  deriving DecidableEq, Repr

/-- The image of a character, when the substitution is about it. -/
def Substitution.image? (c : Char) : Substitution → Option (List Char)
  | .moved span step image =>
    let offset := c.toNat - span.first
    if span.holds c && offset % step = 0 then some [Char.ofNat (image + offset)] else none
  | .listed first images => if first ≤ c.toNat then images[c.toNat - first]? else none

/-- The characters of an image, parted by points. -/
def image? (s : List Char) : Option (List Char) :=
  (pieces '.' s).mapM fun code => (digitsIn? 16 code).map Char.ofNat

/-- A substitution as `first-last=image`, as `first~last=image` when it is about every other
character, or as `first=image,image`. -/
def substitution? (s : List Char) : Option Substitution := do
  let (place, images) ← cutAt '=' s
  if place.contains '-' then some (.moved (← span? '-' place) 1 (← digitsIn? 16 images))
  else if place.contains '~' then some (.moved (← span? '~' place) 2 (← digitsIn? 16 images))
  else some (.listed (← digitsIn? 16 place) (← (pieces ',' images).mapM image?))

def substitutions (s : String) : List Substitution :=
  (tableEntries s).filterMap substitution?

def imageIn? (table : List Substitution) (c : Char) : Option (List Char) :=
  table.findSome? (Substitution.image? c)

/-- The characters with images of their own, each with its image. -/
def Substitution.pairs : Substitution → List (Char × List Char)
  | .moved .. => []
  | .listed first images => images.zipIdx.map fun (image, k) => (Char.ofNat (first + k), image)

end Pager.Text
