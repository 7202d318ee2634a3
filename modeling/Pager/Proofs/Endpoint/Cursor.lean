import Pager.Definition.Defect
import Pager.Proofs.Binding
import Pager.Proofs.Walk.Run

namespace Pager

/-- Whether a body takes fields: none counts as an object without any. -/
def takesFields : Option Json → Bool
  | none | some (.object _) => true
  | some _ => false

/-- The field at the top level of a body. -/
def bodyField? (body : Option Json) (name : String) : Option Json :=
  match body with
  | some (.object fields) => Fields.find? fields name
  | _ => none

/-- The value an outgoing request holds where a cursor goes. -/
def Outgoing.cursor? (o : Outgoing) (rule : CursorRule) : Option Json :=
  match rule.location with
  | .query => (Fields.find? o.query rule.param).map .text
  | .body => bodyField? o.body rule.param

/-- Whether the cursor of an operation has a place in its requests. -/
def OperationDefinition.TakesCursor (op : OperationDefinition) : Prop :=
  op.cursor.location = .query ∨ takesFields op.body = true

theorem takesFields_putBodyField (body : Option Json) (name : String) (value : Json) :
    takesFields (putBodyField body name value) = takesFields body := by
  rcases body with _ | (_ | _ | _ | _ | _ | _) <;> rfl

theorem putBodyField_closed {body : Option Json} (name : String) (value : Json)
    (closed : takesFields body = false) : putBodyField body name value = body := by
  rcases body with _ | (_ | _ | _ | _ | _ | _)
  case none => cases closed
  case some.object => cases closed
  all_goals rfl

theorem bodyField?_closed {body : Option Json} (name : String) (closed : takesFields body = false) :
    bodyField? body name = none := by
  rcases body with _ | (_ | _ | _ | _ | _ | _)
  case some.object => cases closed
  all_goals rfl

theorem bodyField?_putBodyField {body : Option Json} (name : String) (value : Json)
    (takes : takesFields body = true) :
    bodyField? (putBodyField body name value) name = some value := by
  rcases body with _ | (_ | _ | _ | _ | _ | fields)
  case none => exact Fields.find?_put_self [] name value
  case some.object => exact Fields.find?_put_self fields name value
  all_goals cases takes

/-- Rendering keeps objects objects, and makes none. -/
theorem takesFields_renderValue {ctx : Template.Context} {template value : Json}
    (rendered : Template.renderValue ctx template = .ok value) :
    takesFields (some value) = takesFields (some template) := by
  cases template with
  | text s | list items | object fields =>
    rw [Template.renderValue, Except.map_eq_ok] at rendered
    obtain ⟨_, _, rfl⟩ := rendered
    rfl
  | null | bool b | number n =>
    simp only [Template.renderValue, Except.ok.injEq] at rendered
    subst rendered
    rfl

theorem takesFields_pruneEmpty (value : Json) :
    takesFields (some (Template.pruneEmpty value)) = takesFields (some value) := by
  cases value <;> simp [Template.pruneEmpty, takesFields]

theorem takesFields_renderBody {ctx : Template.Context} {template body : Option Json}
    (rendered : Definition.renderBody ctx template = .ok body) :
    takesFields body = takesFields template := by
  cases template with
  | none =>
    cases rendered
    rfl
  | some template =>
    rw [Definition.renderBody, Except.map_eq_ok] at rendered
    obtain ⟨value, made, rfl⟩ := rendered
    rw [takesFields_pruneEmpty, takesFields_renderValue made]

namespace Endpoint

/-- The page size does not change whether the body takes fields. -/
theorem takesFields_request (e : Endpoint) : takesFields e.request.body = takesFields e.body := by
  unfold Endpoint.request
  cases e.pageSize with
  | none => rfl
  | some size =>
    cases e.cursor.location with
    | query => rfl
    | body => exact takesFields_putBodyField e.body _ _

theorem outgoing_query {e : Endpoint} (location : e.cursor.location = .query) (cursor : String) :
    (e.request.setCursor (some cursor)).outgoing =
      ⟨e.request.query.put e.cursor.param cursor, e.request.headers, e.request.body⟩ := by
  have same : e.request.cursorLocation = .query := location
  simp only [ListRequest.outgoing, ListRequest.setCursor, same]
  rfl

theorem outgoing_body {e : Endpoint} (location : e.cursor.location = .body) (cursor : String) :
    (e.request.setCursor (some cursor)).outgoing =
      ⟨e.request.query, e.request.headers,
        putBodyField e.request.body e.cursor.param (.text cursor)⟩ := by
  have same : e.request.cursorLocation = .body := location
  simp only [ListRequest.outgoing, ListRequest.setCursor, same]
  rfl

/-- A request carries its cursor where there is a place for it. -/
theorem cursor?_open {e : Endpoint}
    (place : e.cursor.location = .query ∨ takesFields e.body = true) (cursor : String) :
    (e.request.setCursor (some cursor)).outgoing.cursor? e.cursor = some (.text cursor) := by
  cases location : e.cursor.location with
  | query =>
    rw [outgoing_query location]
    simp only [Outgoing.cursor?, location, Fields.find?_put_self, Option.map_some]
  | body =>
    have takes : takesFields e.request.body = true := by
      rw [takesFields_request]
      exact place.resolve_left (by simp [location])
    rw [outgoing_body location]
    simp only [Outgoing.cursor?, location, bodyField?_putBodyField _ _ takes]

/-- Where there is none, every request goes out as the first one does. -/
theorem outgoing_closed {e : Endpoint} (location : e.cursor.location = .body)
    (closed : takesFields e.body = false) (cursor : String) :
    (e.request.setCursor (some cursor)).outgoing = e.request.outgoing := by
  rw [← takesFields_request] at closed
  rw [outgoing_body location, putBodyField_closed _ _ closed]
  rfl

theorem cursor?_closed {e : Endpoint} (location : e.cursor.location = .body)
    (closed : takesFields e.body = false) : e.request.outgoing.cursor? e.cursor = none := by
  rw [← takesFields_request] at closed
  have same : e.request.outgoing.body = e.request.body := rfl
  simp only [Outgoing.cursor?, location, same, bodyField?_closed _ closed]

end Endpoint

/-- The place of the cursor in an endpoint is that of the operation it was bound from. -/
theorem Definition.takesCursor_iff {d : Definition} {op : OperationDefinition}
    {env : Template.Environment} {supplied : List (String × String)} {b : Binding}
    (bound : d.bindOperation op env supplied = .ok b) :
    op.TakesCursor ↔ b.endpoint.cursor.location = .query ∨ takesFields b.endpoint.body = true := by
  obtain ⟨parameters, url, query, headers, body, _, _, _, _, rendered, rfl⟩ := bindOperation_ok bound
  rw [OperationDefinition.TakesCursor, takesFields_renderBody rendered]

namespace Endpoint

theorem location_of_not {e : Endpoint}
    (closed : ¬ (e.cursor.location = .query ∨ takesFields e.body = true)) :
    e.cursor.location = .body ∧ takesFields e.body = false := by
  rw [not_or, Bool.not_eq_true] at closed
  refine ⟨?_, closed.2⟩
  cases location : e.cursor.location with
  | query => exact absurd location closed.1
  | body => rfl

end Endpoint

/-- A cursor has its place in the requests of a bound endpoint exactly if it goes into the query or
the body of the operation takes fields. It has in every request of every walk from the second on,
with the cursor told by the page before; or else in none, and every request goes out as the first. -/
theorem Definition.bind_cursor_iff {d : Definition} {op : OperationDefinition}
    {env : Template.Environment} {name : String} {supplied : List (String × String)} {b : Binding}
    (named : d.operation? name = some op) (bound : d.bind env name supplied = .ok b) :
    (∀ cursor, (b.endpoint.request.setCursor (some cursor)).outgoing.cursor? b.endpoint.cursor =
      some (.text cursor) ↔ op.TakesCursor) ∧
    ∀ {Service Context Value Kept : Type}
      (s : Setting Service ListRequest ListPage Context Value Kept) (turns : Nat)
      (initialCursor : Option String) (service : Service) (kept : Kept),
      let start : Standing Service ListRequest Value Kept :=
        ⟨b.endpoint.request, service, kept, Progress.start initialCursor, []⟩
      let events := (Walk.standing (Walk.after s turns start)).events
      ∀ k later, (Walk.requests events)[k + 1]? = some later →
        ∃ page cursor, (Walk.answers s.operation service events)[k]? = some (.ok page) ∧
          page.nextCursor = some cursor ∧ cursor ≠ "" ∧
          (op.TakesCursor → later.outgoing.cursor? b.endpoint.cursor = some (.text cursor)) ∧
          (¬ op.TakesCursor → later.outgoing = b.endpoint.request.outgoing) := by
  obtain ⟨op', found, operation⟩ := bind_ok bound
  cases Option.some.inj (named.symm.trans found)
  have place := takesCursor_iff operation
  refine ⟨fun cursor => ⟨fun carried => ?_, fun takes => ?_⟩, ?_⟩
  · by_cases takes : op.TakesCursor
    · exact takes
    · obtain ⟨location, closed⟩ := Endpoint.location_of_not (mt place.mpr takes)
      rw [Endpoint.outgoing_closed location closed, Endpoint.cursor?_closed location closed] at carried
      cases carried
  · exact Endpoint.cursor?_open (place.mp takes) cursor
  · intro Service Context Value Kept s turns initialCursor service kept start events k later sent
    obtain ⟨logged, same, _, trace⟩ := Walk.after_trace s turns start
    have atTrace : events = logged := same
    rw [← atTrace] at trace
    obtain ⟨page, cursor, answered, told, filled, rfl⟩ := trace.follows_lawful sent
    refine ⟨page, cursor, answered, told, filled, fun takes => ?_, fun lost => ?_⟩
    · exact Endpoint.cursor?_open (place.mp takes) cursor
    · obtain ⟨location, closed⟩ := Endpoint.location_of_not (mt place.mpr lost)
      exact Endpoint.outgoing_closed location closed cursor

namespace FreeText

/-- A definition whose body is one text, which the caller may leave empty. -/
def text : String :=
  "name: s\nbase_url: http://h\noperations:\n- name: list\n  path: /p\n  parameters:\n" ++
  "  - name: filter\n    default: ''\n  body: '\x7b\x7b params.filter \x7d\x7d'\n" ++
  "  cursor: \x7bparam: c, location: body\x7d\n"

def operation : OperationDefinition where
  name := "list"
  description := none
  method := .get
  path := "/p"
  parameters := [⟨"filter", false, some "", none⟩]
  params := []
  headers := []
  body := some (.text "\x7b\x7b params.filter \x7d\x7d")
  cursor := ⟨"c", .body, none⟩
  pageSize := none
  itemsPath := none

def definition : Definition :=
  ⟨"s", "http://h", .standard, [], [operation]⟩

def endpoint : Endpoint :=
  ⟨"list", "http://h/p", .get, [], [], some (.text ""), ⟨"c", .body, "c"⟩, none, none⟩

theorem load : Definition.load text = .ok definition := by
  have chars : text = String.ofList _ := Text.append_eq_ofList (Text.append_eq_ofList rfl rfl) rfl
  have loaded : (Definition.load text).toOption = some definition := by
    rw [Definition.load, Definition.ofYaml, Yaml.Document.ofText, chars, Yaml.eventsOf_ofList]
    decide +kernel
  exact Except.toOption_eq_some.mp loaded

theorem bind : ∃ b, definition.bind (fun _ => none) "list" [] = .ok b ∧ b.endpoint = endpoint := by
  have bound : (definition.bind (fun _ => none) "list" []).toOption.map Binding.endpoint =
      some endpoint := by decide +kernel
  obtain ⟨b, made, same⟩ := Option.map_eq_some_iff.mp bound
  exact ⟨b, Except.toOption_eq_some.mp made, same⟩

/-- No cursor has a place in its requests. -/
theorem bind_cursor : ∃ b, definition.operation? "list" = some operation ∧
    definition.bind (fun _ => none) "list" [] = .ok b ∧ ¬ operation.TakesCursor ∧
    ∀ cursor, (b.endpoint.request.setCursor (some cursor)).outgoing.cursor? b.endpoint.cursor ≠
      some (.text cursor) := by
  obtain ⟨b, bound, _⟩ := bind
  have named : definition.operation? "list" = some operation := by decide
  have closed : ¬ operation.TakesCursor := by simp [OperationDefinition.TakesCursor, operation, takesFields]
  exact ⟨b, named, bound, closed, fun cursor carried =>
    closed (((Definition.bind_cursor_iff named bound).1 cursor).mp carried)⟩

/-- The request with a cursor is the one without. -/
theorem cursor_lost : ∃ d b, Definition.load text = .ok d ∧
    d.bind (fun _ => none) "list" [] = .ok b ∧
    (b.endpoint.request.setCursor (some "c1")).outgoing = b.endpoint.request.outgoing ∧
    (b.endpoint.request.setCursor (some "c1")).outgoing.cursor? b.endpoint.cursor = none := by
  obtain ⟨b, bound, same⟩ := bind
  refine ⟨definition, b, load, bound, ?_, ?_⟩
  · rw [same]
    rfl
  · rw [same]
    rfl

end FreeText

end Pager
