import Pager.Fields
import Pager.Transport.Backoff

namespace Pager.Transport

/-- Where relative addresses lead, how long an answer may take, how often an attempt is repeated and
after what delay, and the headers that the client is asked for with every request. -/
structure Settings where
  baseUrl : Option String
  timeout : Delay
  maxRetries : Nat
  backoff : Backoff
  headers : Fields String
  userAgent : String
  deriving DecidableEq, Repr

/-- How the program names itself unless it is told otherwise. -/
def standardAgent : String := "pagewalk/0.1.0"

def Settings.standard : Settings where
  baseUrl := none
  timeout := .ofSeconds 30
  maxRetries := 0
  backoff := ⟨.exponential, .ofMillis 100, .ofSeconds 20⟩
  headers := []
  userAgent := standardAgent

end Pager.Transport
