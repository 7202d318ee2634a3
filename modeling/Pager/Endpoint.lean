import Pager.Decimal.Notation
import Pager.Json.Basic

namespace Pager

inductive Method
  | get
  | post
  deriving DecidableEq, Repr

def Method.name : Method → String
  | .get => "GET"
  | .post => "POST"

inductive CursorLocation
  | query
  | body
  deriving DecidableEq, Repr

def CursorLocation.name : CursorLocation → String
  | .query => "query"
  | .body => "body"

/-- How the cursor is sent and where a page holds the next one. -/
structure CursorRule where
  param : String
  location : CursorLocation
  responsePath : String
  deriving DecidableEq, Repr

structure PageSize where
  param : String
  value : Nat
  deriving DecidableEq, Repr

/-- One list call with everything filled in but the cursor. The cursor and the page size go into the
query or the top level of the body. -/
structure Endpoint where
  name : String
  url : String
  method : Method
  query : Fields String
  headers : Fields String
  body : Option Json
  cursor : CursorRule
  pageSize : Option PageSize
  itemsPath : Option String
  deriving DecidableEq, Repr

/-- The body with a field written at its top level; no body counts as an empty object, and a body
that is no object takes no field. -/
def putBodyField (body : Option Json) (name : String) (value : Json) : Option Json :=
  match body with
  | none => some (.object [(name, value)])
  | some (.object fields) => some (.object (Fields.put fields name value))
  | some other => some other

/-- A list request; setting the cursor is all that changes from page to page. -/
structure ListRequest where
  query : Fields String
  headers : Fields String
  body : Option Json
  cursorParam : String
  cursorLocation : CursorLocation
  cursor : Option String
  deriving DecidableEq, Repr

/-- What goes out with a request besides its method and address. -/
structure Outgoing where
  query : Fields String
  headers : Fields String
  body : Option Json
  deriving DecidableEq, Repr

def Endpoint.request (e : Endpoint) : ListRequest :=
  let (query, body) := match e.pageSize with
    | none => (e.query, e.body)
    | some size =>
      match e.cursor.location with
      | .query => (e.query.put size.param (String.ofList (Decimal.natText size.value)), e.body)
      | .body => (e.query, putBodyField e.body size.param (.ofNat size.value))
  { query, headers := e.headers, body, cursorParam := e.cursor.param
    cursorLocation := e.cursor.location, cursor := none }

def ListRequest.setCursor (r : ListRequest) (cursor : Option String) : ListRequest :=
  { r with cursor }

def ListRequest.outgoing (r : ListRequest) : Outgoing :=
  match r.cursor with
  | none => ⟨r.query, r.headers, r.body⟩
  | some cursor =>
    match r.cursorLocation with
    | .query => ⟨r.query.put r.cursorParam cursor, r.headers, r.body⟩
    | .body => ⟨r.query, r.headers, putBodyField r.body r.cursorParam (.text cursor)⟩

end Pager
