import Pager.Text.Digits
import Pager.Transport.Message

namespace Pager.Transport

/-- What an attempt comes to. -/
inductive Verdict
  | done (r : Response)
  | fatal (fault : Fault)
  | again (wait : Delay) (fault : Fault)
  deriving DecidableEq, Repr

/-- The seconds a service asks to wait, as a whole number. -/
def Response.retryAfter? (r : Response) : Option Nat :=
  (r.header? "retry-after").bind fun value => Text.natBelow? (Nat.pow 2 64) value.toList

/-- How long to wait before another attempt when the rate is limited. -/
def limitedWait (s : Settings) (attempt : Nat) (r : Response) : Delay :=
  match r.retryAfter? with
  | some seconds => (Delay.ofSeconds seconds).shorter s.backoff.cap
  | none => s.backoff.delay attempt

/-- The statuses that a further attempt may mend. -/
def isPassing (status : Nat) : Bool :=
  status == 500 || status == 502 || status == 503 || status == 504

/-- Judges what came of the attempt of a number, counted from zero, once its redirects were followed.
A time-out, a refused connection, a limited rate and some statuses are worth another attempt after a
delay, and everything else is final. -/
def judge (s : Settings) (timeout : Delay) (attempt : Nat) : Reply → Verdict
  | .silence => .again (s.backoff.delay attempt) (.timeout (timeout.millis % Nat.pow 2 64))
  | .failure links connecting =>
    if connecting && !Fault.isLookupFailure links then
      .again (s.backoff.delay attempt) (.transport links)
    else .fatal (.transport links)
  | .response r =>
    if r.status = 429 then
      let wait := limitedWait s attempt r
      .again wait (.rateLimited wait.seconds)
    else if 400 ≤ r.status && r.status < 600 then
      let fault := Fault.status r.status (r.text?.getD "")
      if isPassing r.status then .again (s.backoff.delay attempt) fault else .fatal fault
    else .done r

/-- What came of a call: how often its message was sent, the waits between, and the result. -/
structure Exchange (State : Type) where
  service : State
  sent : Nat
  waits : List Delay
  result : Except Fault Response

/-- Sends a message, again as long as that is worth it and retries are left. Attempts are counted and
delays are multiplied as numbers without a bound, so also where a word would not hold the number
behind the largest one of retries, or the product of a delay that grows by equal steps. -/
def exchange {State : Type} (peer : Peer State) (s : Settings) (timeout : Delay)
    (message : Message) : Nat → Nat → State → Exchange State
  | retries, attempt, service =>
    match peer.answer service message with
    | (service, reply) =>
      match judge s timeout attempt reply with
      | .done r => ⟨service, 1, [], .ok r⟩
      | .fatal fault => ⟨service, 1, [], .error fault⟩
      | .again wait fault =>
        match retries with
        | 0 => ⟨service, 1, [], .error fault⟩
        | retries + 1 =>
          let rest := exchange peer s timeout message retries (attempt + 1) service
          ⟨rest.service, rest.sent + 1, wait :: rest.waits, rest.result⟩

/-- Makes a call; nothing is sent when it cannot be made into a message. -/
def call {State : Type} (peer : Peer State) (s : Settings) (c : Call) (service : State) :
    Exchange State :=
  match s.message c with
  | .error fault => ⟨service, 0, [], .error fault⟩
  | .ok message => exchange peer s (c.timeout.getD s.timeout) message s.maxRetries 0 service

/-- The settings, if a client can be made with them. -/
def Settings.usable (s : Settings) : Except Fault Settings :=
  if isHeaderValue s.userAgent then .ok s else .error unsendable

end Pager.Transport
