import Pager.Url.Host
import Pager.Url.Path

namespace Pager

namespace Url

/-- The parts between the scheme and the path; names and passwords are kept encoded. -/
structure Authority where
  username : String
  password : String
  host : Option Host
  port : Option Nat
  deriving DecidableEq, Repr

/-- What stands between the scheme and the path. -/
inductive Front
  | bare
  /-- A slash and a dot, which keep a path with two slashes in front from being an authority. -/
  | dotted
  | authority (a : Authority)
  deriving DecidableEq, Repr

end Url

/-- A URL taken apart. A special scheme has a host and slashes after it, a backslash counts as one
of them, and its path is never empty; the path of another scheme may be without slashes and then
takes no segments. -/
structure Url where
  scheme : String
  front : Url.Front
  path : Url.Path
  query : Option String
  fragment : Option String
  deriving DecidableEq, Repr

namespace Url

/-- The special schemes and the ports that go without saying. -/
def specialPorts : List (String × Option Nat) :=
  [("http", some 80), ("https", some 443), ("ws", some 80), ("wss", some 443), ("ftp", some 21),
   ("file", none)]

def isSpecial (scheme : String) : Bool :=
  (specialPorts.lookup scheme).isSome

def defaultPort (scheme : String) : Option Nat :=
  (specialPorts.lookup scheme).join

/-- The text without control characters and blanks at its ends. -/
def trimmed (s : String) : List Char :=
  let inner := (s.toList.dropWhile (·.toNat ≤ 0x20)).reverse.dropWhile (·.toNat ≤ 0x20)
  inner.reverse

def isSchemeChar (c : Char) : Bool :=
  c.isAlphanum || c == '+' || c == '-' || c == '.'

/-- The scheme and what follows its colon. -/
def scheme? (s : List Char) : Option (String × List Char) :=
  match s.dropWhile isSchemeChar with
  | ':' :: rest =>
    let name := s.takeWhile isSchemeChar
    if (name.headD '-').isAlpha then some (String.ofList (name.map Char.toLower), rest) else none
  | _ => none

def endsAuthority (special : Bool) (c : Char) : Bool :=
  isSlash special c || c == '?' || c == '#'

/-- The path after an authority. -/
def pathAfter (scheme : String) (s : List Char) : Path :=
  match s with
  | [] => .segments (if isSpecial scheme then [""] else [])
  | c :: rest =>
    let raw := rawSegments (isSpecial scheme) (c :: rest)
    .segments (segmentsOf scheme (if isSlash (isSpecial scheme) c then raw.tail else raw))

/-- The end of a URL from the mark behind its path. -/
def tail (scheme : String) (s : List Char) : Option String × Option String :=
  let fragment (s : List Char) : Option String :=
    match s with
    | '#' :: rest => some (String.ofList (encode inFragment rest))
    | _ => none
  match s with
  | '?' :: rest =>
    let query := rest.takeWhile (· ≠ '#')
    let reserved := if isSpecial scheme then inSpecialQuery else inQuery
    (some (String.ofList (encode reserved query)), fragment (rest.dropWhile (· ≠ '#')))
  | s => (none, fragment s)

/-- The user information in front of the last `@` of an authority, and what follows it. -/
def userInfo (special : Bool) (s : List Char) : Except Fault (String × String × List Char) :=
  let authority := s.takeWhile fun c => !endsAuthority special c
  let behind := s.dropWhile fun c => !endsAuthority special c
  let back := authority.reverse
  if authority.contains '@' then
    let host := (back.takeWhile (· ≠ '@')).reverse
    let info := ((back.dropWhile (· ≠ '@')).drop 1).reverse
    if host.isEmpty && !behind.isEmpty && info.isEmpty then .error .emptyHost
    else
      let (name, password) := (Text.cutAt ':' info).getD (info, [])
      let text (part : List Char) : String := String.ofList (encode inUserInfo part)
      .ok (text name, text password, host ++ behind)
  else .ok ("", "", s)

/-- The text of a host: up to a colon outside brackets, or the end of the authority. -/
def hostText (special : Bool) : Bool → List Char → List Char
  | _, [] => []
  | inside, c :: rest =>
    if (c == ':' && !inside) || endsAuthority special c then []
    else c :: hostText special (if c == '[' then true else if c == ']' then false else inside) rest

/-- The port behind its colon, and what follows it. -/
def port (scheme : String) (s : List Char) : Except Fault (Option Nat × List Char) :=
  let digits := s.takeWhile Char.isDigit
  let rest := s.dropWhile Char.isDigit
  let value := Text.decimalValue digits
  let given := if digits.isEmpty || defaultPort scheme = some value then none else some value
  if 0xffff < value then .error .badPort
  else match rest with
    | c :: _ =>
      if !(c == '/' || c == '\\' || c == '?' || c == '#') then .error .badPort
      else .ok (given, rest)
    | [] => .ok (given, rest)

/-- What follows the two slashes behind a scheme. -/
def withAuthority (scheme : String) (s : List Char) : Except Fault Url := do
  let special := isSpecial scheme
  let (username, password, s) ← userInfo special s
  let text := hostText special false s
  let rest := s.drop text.length
  if special && text.isEmpty then .error .emptyHost
  else
    let host ←
      if special then some <$> Host.ofText text
      else if text.isEmpty then .ok none
      else some <$> Host.ofOpaqueText text
    let (port, rest) ← match rest with
      | ':' :: rest => if text.isEmpty then .error .emptyHost else port scheme rest
      | rest => .ok (none, rest)
    if host.isNone && (username ≠ "" || password ≠ "") then .error .emptyHost
    else
      let pathText := rest.takeWhile fun c => !endsPath c
      let (query, fragment) := tail scheme (rest.dropWhile fun c => !endsPath c)
      let front := .authority ⟨username, password, host, port⟩
      .ok ⟨scheme, front, pathAfter scheme pathText, query, fragment⟩

/-- A slash at the front, behind tabs and line breaks or none. -/
def afterSlash? (s : List Char) : Option (List Char) :=
  match s.dropWhile isTabOrBreak with
  | c :: rest => if isSlash true c then some rest else none
  | [] => none

/-- The host of a file, if there is one, and what follows it. A drive is no host. -/
def fileHost (s : List Char) : Except Fault (Option Host × List Char) := do
  let text := s.takeWhile fun c => !endsAuthority true c
  let rest := s.drop text.length
  let text := unbroken text
  if isDrive text then .ok (none, s)
  else if text.isEmpty then .ok (none, rest)
  else
    let host ← Host.ofText text
    .ok (if host = .domain "localhost" then none else some host, rest)

/-- What follows the scheme of a file: two slashes bring a host, which may be left out, and does not
stand in front of a drive. -/
def file (s : List Char) : Except Fault Url := do
  let (host, opening, s) ← match afterSlash? s with
    | none => .ok (none, false, s)
    | some behind =>
      match afterSlash? behind with
      | none => .ok (none, true, s)
      | some behind =>
        let (host, rest) ← fileHost behind
        .ok (host, host.isSome, rest)
  let raw := rawSegments true (s.takeWhile fun c => !endsPath c)
  let (query, fragment) := tail "file" (unbroken (s.dropWhile fun c => !endsPath c))
  let host := if raw.any fun segment => isDrive (unbroken segment) then none else host
  let raw := if opening && 1 < raw.length then raw.tail else raw
  .ok ⟨"file", .authority ⟨"", "", host, none⟩, .segments (segmentsOf "file" raw), query, fragment⟩

/-- What follows a scheme that is not special. -/
def plain (scheme : String) (s : List Char) : Except Fault Url :=
  match s with
  | '/' :: '/' :: rest => withAuthority scheme rest
  | _ =>
    let pathText := s.takeWhile fun c => !endsPath c
    let (query, fragment) := tail scheme (s.dropWhile fun c => !endsPath c)
    match pathText with
    | '/' :: rest =>
      let segments := segmentsOf scheme (rawSegments false rest)
      let front := match segments with
        | "" :: _ :: _ => .dotted
        | _ => .bare
      .ok ⟨scheme, front, .segments segments, query, fragment⟩
    | text =>
      .ok ⟨scheme, .bare, .rootless (String.ofList (encode isControl text)), query, fragment⟩

/-- Reads a URL. -/
def ofText (s : String) : Except Fault Url :=
  let s := trimmed s
  match scheme? (unbroken s) with
  | none => .error .noBase
  | some (scheme, rest) =>
    if scheme = "file" then file ((s.dropWhile (· ≠ ':')).drop 1)
    else if isSpecial scheme then withAuthority scheme (rest.dropWhile (isSlash true))
    else plain scheme rest

def Authority.text (a : Authority) : String :=
  let password := if a.password = "" then "" else ":" ++ a.password
  let user := if a.username = "" && a.password = "" then "" else a.username ++ password ++ "@"
  let host := match a.host with
    | some host => host.text
    | none => ""
  let port := match a.port with
    | some port => ":" ++ toString port
    | none => ""
  user ++ host ++ port

def Front.text : Front → String
  | .bare => ""
  | .dotted => "/."
  | .authority a => "//" ++ a.text

def text (u : Url) : String :=
  let query := match u.query with
    | some query => "?" ++ query
    | none => ""
  let fragment := match u.fragment with
    | some fragment => "#" ++ fragment
    | none => ""
  u.scheme ++ ":" ++ u.front.text ++ u.path.text ++ query ++ fragment

def host? (u : Url) : Option String :=
  match u.front with
  | .authority a => a.host.map Host.text
  | _ => none

def port? (u : Url) : Option Nat :=
  match u.front with
  | .authority a => a.port
  | _ => none

/-- Whether a text begins as the address of a web service does. -/
def isWebAddress (s : String) : Bool :=
  (Text.afterPrefix "http://".toList s.toList).isSome
    || (Text.afterPrefix "https://".toList s.toList).isSome

/-- The URL with keys and values, form-encoded, put behind its query. -/
def addQuery (u : Url) (pairs : List (String × String)) : Url :=
  let added := pairs.map fun (key, value) =>
    String.ofList (formEncode key) ++ "=" ++ String.ofList (formEncode value)
  let own := match u.query with
    | some query => if query = "" then [] else [query]
    | none => []
  if pairs.isEmpty then u else { u with query := some (Text.joinWith "&" (own ++ added)) }

/-- The URL with segments put behind its path; none when the path takes no segments. -/
def extend? (u : Url) (segments : List String) : Option Url :=
  match u.path with
  | .segments own =>
    let push := pushSegment u.scheme (isSpecial u.scheme)
    some { u with path := .segments (segments.foldl push (popIfEmpty own)) }
  | .rootless _ => none

end Url

end Pager
