import Pager.Endpoint
import Pager.Fault
import Pager.Json.Writer
import Pager.Text.Bytes
import Pager.Transport.Settings
import Pager.Url.Basic

namespace Pager.Transport

/-- One request as its caller asks for it. -/
structure Call where
  method : Method
  address : String
  outgoing : Outgoing
  timeout : Option Delay
  deriving DecidableEq, Repr

/-- One request as the client that sends it is asked for it. What the client makes of it lies on the
far side: it sends the user information of the address as an authorization instead, adds headers of
its own for the host, the length and what it accepts, and follows redirects. -/
structure Message where
  method : Method
  url : Url
  /-- Names in lower case, in the order of asking; a name may occur more than once. -/
  headers : List (String × String)
  body : Option String
  deriving DecidableEq, Repr

/-- The answer that is left when every redirect has been followed. -/
structure Response where
  status : Nat
  headers : List (String × String)
  /-- None when the connection broke off before the announced end. -/
  body : Option Text.Bytes
  deriving DecidableEq, Repr

/-- What the client says that a message came to, redirects and all. -/
inductive Reply
  | response (r : Response)
  /-- Nothing, until the time is up. -/
  | silence
  /-- No answer, for the causes given, while the connection was being made or after. -/
  | failure (links : List String) (connecting : Bool)
  deriving DecidableEq, Repr

/-- The far side of a call: the client that sends messages, and the service behind it. What comes of a
message may depend on everything that was asked before. -/
structure Peer (State : Type) where
  answer : State → Message → State × Reply

/-- A far side where nobody listens. -/
def unreachable : Peer Unit where
  answer _ _ := ((), .failure ["tcp connect error"] true)

def Response.header? (r : Response) (name : String) : Option String :=
  (r.headers.find? fun field => Text.sameName field.1 name).map Prod.snd

/-- The body as text, with the mark for bytes that are none. -/
def Response.text? (r : Response) : Option String :=
  r.body.map Text.ofBytes

/-- What is told of a call that cannot be made into a message. -/
def unsendable : Fault :=
  .transport ["builder error"]

def isTokenChar (c : Char) : Bool :=
  c.isAlphanum || "!#$%&'*+-.^_\x60|~".toList.contains c

def isHeaderName (s : String) : Bool :=
  s ≠ "" && s.toList.all isTokenChar

/-- A header's value holds no control characters but the tab. -/
def isHeaderValue (s : String) : Bool :=
  s.toList.all fun c => c == '\t' || (0x20 ≤ c.toNat && c.toNat ≠ 0x7f)

def hasHeader (headers : List (String × String)) (name : String) : Bool :=
  headers.any fun field => field.1 = name

/-- The header, unless one of its name is there. -/
def withDefault (headers : List (String × String)) (name value : String) : List (String × String) :=
  if hasHeader headers name then headers else headers ++ [(name, value)]

/-- The full address: an absolute one as it is, any other one behind the base, if there is one. -/
def Settings.addressOf (s : Settings) (address : String) : String :=
  if Url.isWebAddress address then address
  else match s.baseUrl with
    | some base =>
      let front := (base.toList.reverse.dropWhile (· = '/')).reverse
      String.ofList (front ++ '/' :: address.toList.dropWhile (· = '/'))
    | none => address

/-- The URL of a web service with a host. -/
def webUrl? (address : String) : Option Url :=
  match Url.ofText address with
  | .ok url =>
    if (url.scheme = "http" || url.scheme = "https") && url.host?.isSome then some url
    else none
  | .error _ => none

/-- What a call asks the client to send; none if the address is not one of the web or a header cannot
be written. -/
def Settings.message (s : Settings) (call : Call) : Except Fault Message :=
  let headers := s.headers ++ call.outgoing.headers
  match webUrl? (s.addressOf call.address) with
  | none => .error unsendable
  | some url =>
    if !headers.all fun (name, value) => isHeaderName name && isHeaderValue value then
      .error unsendable
    else
      let named := headers.map fun (name, value) => (Text.lowerAscii name, value)
      let typed := match call.outgoing.body with
        | some _ => withDefault named "content-type" "application/json"
        | none => named
      .ok {
        method := call.method
        url := url.addQuery call.outgoing.query
        headers := withDefault typed "user-agent" s.userAgent
        body := call.outgoing.body.map Json.toText }

end Pager.Transport
