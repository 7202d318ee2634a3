import Pager.Text.Letters
import Pager.Text.Pieces
import Pager.Url.Fault

namespace Pager

/-- Everything that can go wrong, by cause. A text that is no YAML has no fault of its own: wherever
one is read, that is told as a fault of the definition. -/
inductive Fault
  /-- The definition cannot be read or used. -/
  | config (message : String)
  | missingParameter (name : String)
  | invalidArgument (argument message : String)
  /-- A text is not JSON, or the writer of a JSON document failed with the given text. -/
  | malformedJson (writer : Option String)
  /-- No answer came back; the texts go from the outermost cause to the innermost. -/
  | transport (links : List String)
  | status (code : Nat) (body : String)
  | rateLimited (seconds : Nat)
  | timeout (millis : Nat)
  | badUrl (cause : Url.Fault)
  | nameResolution (endpoint message : String)
  | service (operation message : String)
  | decode (message : String)
  | output (message : String)
  | undefinedVariables (names : List String)
  | io (message : String)
  | other (message : String)
  /-- A fault of another program part: its text and those of its causes, innermost last. -/
  | foreign (text : String) (causes : List String)
  deriving DecidableEq, Repr

namespace Fault

def message : Fault → String
  | .config m => s!"Configuration error: {m}"
  | .missingParameter name => s!"Missing required parameter: {name}"
  | .invalidArgument argument m => s!"Invalid argument '{argument}': {m}"
  | .malformedJson none => "Failed to parse JSON"
  | .malformedJson (some m) => s!"Failed to parse JSON: {m}"
  | .transport _ => "HTTP request failed"
  | .status code body => s!"HTTP {code}: {body}"
  | .rateLimited seconds => s!"Rate limited, retry after {seconds}s"
  | .timeout millis => s!"Request timeout after {millis}ms"
  | .badUrl cause => s!"Invalid URL: {cause.message}"
  | .nameResolution endpoint m =>
    s!"Name resolution failure attempting to reach '{endpoint}': {m}"
  | .service operation m => s!"{operation} failed: {m}"
  | .decode m => s!"Failed to decode page: {m}"
  | .output m => s!"Output error: {m}"
  | .undefinedVariables names =>
    "Undefined variable in template: " ++ Text.joinWith ", " names
  | .io m => s!"IO error: {m}"
  | .other m => m
  | .foreign text _ => text

/-- Faults of what the caller asked for, found before any page is fetched. -/
def isArgument : Fault → Bool
  | .invalidArgument .. | .missingParameter _ | .config _ => true
  | _ => false

/-- The statuses after which the same request may succeed. -/
def isRetryableStatus (code : Nat) : Bool :=
  code == 429 || code == 500 || code == 502 || code == 503 || code == 504

def isRetryable : Fault → Bool
  | .transport _ | .rateLimited _ | .timeout _ => true
  | .status code _ => isRetryableStatus code
  | _ => false

/-- The phrases by which a failed name lookup is known, in whatever case. -/
def lookupPhrases : List String :=
  ["dns error", "failed to lookup address", "name or service not known", "no such host"]

def mentionsLookup (text : String) : Bool :=
  lookupPhrases.any fun phrase => Text.contains phrase.toList (Text.loweredText text)

/-- Whether a cause, or any cause below it, tells of a failed name lookup. -/
def isLookupFailure : List String → Bool
  | [] => false
  | text :: causes => mentionsLookup text || isLookupFailure causes

/-- The same question asked of every cause in turn. -/
def anyLookupFailure : List String → Bool
  | [] => false
  | text :: causes => isLookupFailure (text :: causes) || anyLookupFailure causes

def lookupAdvice : String :=
  "the host name could not be resolved; check the endpoint or region and network connectivity"

/-- A failed name lookup told of as such, with the endpoint's name; any other fault unchanged. -/
def normalizeLookup (endpoint : String) (fault : Fault) : Fault :=
  let failed := match fault with
    | .transport links => isLookupFailure links
    | .foreign text causes => anyLookupFailure (text :: causes)
    | _ => false
  if failed then .nameResolution endpoint lookupAdvice else fault

end Fault

end Pager
