import Pager.Text.Pieces
import Pager.Url.Percent

namespace Pager.Url

inductive Path
  | segments (segments : List String)
  /-- A path that does not begin with a slash. -/
  | rootless (text : String)
  deriving DecidableEq, Repr

def Path.text : Path → String
  | .segments parts => String.join (parts.map ("/" ++ ·))
  | .rootless text => text

def isTabOrBreak (c : Char) : Bool :=
  c == '\t' || c == '\n' || c == '\r'

/-- The text without tabs and line breaks. -/
def unbroken (s : List Char) : List Char :=
  s.filter fun c => !isTabOrBreak c

def isSlash (special : Bool) (c : Char) : Bool :=
  c == '/' || (special && c == '\\')

def endsPath (c : Char) : Bool :=
  c == '?' || c == '#'

def isDouble (segment : List Char) : Bool :=
  let s := segment.map Char.toLower
  [['.', '.'], "%2e%2e".toList, "%2e.".toList, ".%2e".toList].contains s

def isSingle (segment : List Char) : Bool :=
  let s := segment.map Char.toLower
  s == ['.'] || s == "%2e".toList

/-- A letter, and a colon or a bar in place of it. -/
def isDrive : List Char → Bool
  | [letter, mark] => letter.isAlpha && (mark == ':' || mark == '|')
  | _ => false

/-- Whether a segment is a drive, alone or with a backslash behind it. -/
def holdsDrive (segment : List Char) : Bool :=
  isDrive (segment.take 2) && (segment.length = 2 || segment[2]? = some '\\')

/-- The segments without the last one; a drive stays, whatever the scheme. -/
def parent (segments : List String) : List String :=
  match segments.getLast? with
  | some last => if holdsDrive last.toList then segments else segments.dropLast
  | none => []

/-- Whether a tab or line break follows the first colon. -/
def isParted (segment : List Char) : Bool :=
  ((segment.dropWhile (· ≠ ':')).drop 1).head?.any isTabOrBreak

/-- A segment of a file's path behind others: a drive is written with a colon, and what is parted
from the drive that opens a path stands behind it. -/
def fileSegment (before : List String) (segment written : List Char) : List (List Char) :=
  match written with
  | letter :: mark :: rest =>
    if !isDrive [letter, mark] then [written]
    else if rest.isEmpty then [[letter, ':']]
    else if before.isEmpty && mark == ':' && isParted segment then [[letter, ':'], rest]
    else [written]
  | short => [short]

/-- The raw segments of a path, cut at its slashes. -/
def rawSegments (special : Bool) (s : List Char) : List (List Char) :=
  Text.pieces '/' (s.map fun c => if isSlash special c then '/' else c)

/-- Puts raw segments behind others. They are encoded, and the dots among them followed; behind dots
in the last place the path ends with a slash. -/
def settle (scheme : String) (reserved : Char → Bool) : List (List Char) → List String → List String
  | [], done => done
  | segment :: rest, done =>
    let written := encode reserved (unbroken segment)
    if isDouble written || isSingle written then
      let kept := if isDouble written then parent done else done
      settle scheme reserved rest (if rest.isEmpty then kept ++ [""] else kept)
    else
      let parts := if scheme = "file" then fileSegment done segment written else [written]
      settle scheme reserved rest (done ++ parts.map String.ofList)

/-- Empty segments in front of others, dropped; the path of a file has none. -/
def dropEmptyFront (scheme : String) (segments : List String) : List String :=
  if scheme = "file" then
    match segments.dropWhile (· = "") with
    | [] => [""]
    | rest => rest
  else segments

/-- The segments of raw ones. -/
def segmentsOf (scheme : String) (raw : List (List Char)) : List String :=
  dropEmptyFront scheme (settle scheme inPath raw [])

/-- Drops an empty last segment, unless it is the only one. -/
def popIfEmpty (segments : List String) : List String :=
  if 1 < segments.length && segments.getLast? = some "" then segments.dropLast else segments

/-- Appends a segment, slashes and percent signs in it encoded, or puts it in the place of a single
empty one. Dots are left out; if they stand there only once tabs and line breaks are gone, they are
followed. -/
def pushSegment (scheme : String) (special : Bool) (segments : List String) (segment : String) :
    List String :=
  if segment = "." || segment = ".." then segments
  else
    let reserved := if special then inSpecialSegment else inSegment
    let before := if segments = [""] then [] else segments
    dropEmptyFront scheme (settle scheme reserved [segment.toList] before)

end Pager.Url
