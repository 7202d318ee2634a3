import Pager.Transport.Message

namespace Pager.Transport

/-- A service that answers from a list, one answer for each message received, and keeps what it
received. -/
structure Script where
  replies : List Reply
  received : List Message
  deriving DecidableEq, Repr

/-- A header's value as it is sent, without spaces and tabs at its ends. -/
def sentValue (s : String) : String :=
  let isPadding (c : Char) := c == ' ' || c == '\t'
  String.ofList ((s.toList.dropWhile isPadding).reverse.dropWhile isPadding).reverse

/-- A response as it is sent: those of two statuses carry no body. -/
def Response.sent (r : Response) : Response where
  status := r.status
  headers := r.headers.map fun (name, value) => (name, sentValue value)
  body := if r.status = 204 || r.status = 304 then some [] else r.body

/-- The answer when the list is used up. -/
def spent : Reply :=
  .response ⟨404, [], some (Text.toBytes "no more responses")⟩

/-- The service of a script, at the places where somebody listens; a message to any other place is
not received. -/
def Script.peer (listens : Url → Bool) : Peer Script where
  answer script message :=
    if !listens message.url then (script, .failure ["tcp connect error"] true)
    else
      let received := script.received ++ [message]
      match script.replies with
      | [] => (⟨[], received⟩, spent)
      | .response r :: rest => (⟨rest, received⟩, .response r.sent)
      | reply :: rest => (⟨rest, received⟩, reply)

end Pager.Transport
