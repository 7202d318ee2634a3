import Pager.Binding
import Pager.Json.Reader
import Pager.Page
import Pager.Paging.Walk
import Pager.Transport.Exchange

namespace Pager

namespace Transport

/-- The page that a response's body is in JSON. A body without text is a page of null. -/
def decodePage (e : Endpoint) (r : Response) : Except Fault ListPage :=
  match r.text? with
  | none => .error (.decode "Failed to read response body")
  | some text =>
    let page (body : Json) : ListPage := ListPage.ofBody body e.cursor.responsePath e.itemsPath
    if Text.trim text = "" then .ok (page .null)
    else match Json.read text with
      | some body => .ok (page body)
      | none => .error (.malformedJson none)

def callOf (e : Endpoint) (request : ListRequest) : Call :=
  ⟨e.method, e.url, request.outgoing, none⟩

end Transport

/-- The operation that asks a service for the pages of an endpoint. -/
def Endpoint.operation {State : Type} (e : Endpoint) (s : Transport.Settings)
    (peer : Transport.Peer State) : Operation State ListRequest ListPage where
  name := e.name
  fetch service request :=
    let x := Transport.call peer s (Transport.callOf e request) service
    (x.service, x.result.bind (Transport.decodePage e))
  normalize := Fault.normalizeLookup e.host

end Pager
