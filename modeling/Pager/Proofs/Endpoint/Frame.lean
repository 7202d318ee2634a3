import Pager.Bucket.Basic
import Pager.Proofs.Endpoint.Cursor

namespace Pager

namespace Fields

variable {α : Type}

/-- The fields but the one of a name. -/
def without (fields : Fields α) (name : String) : Fields α :=
  fields.filter fun field => field.1 ≠ name

theorem without_put (fields : Fields α) (name : String) (value : α) :
    without (fields.put name value) name = without fields name := by
  induction fields with
  | nil => simp [put, without]
  | cons field rest ih =>
    obtain ⟨k, v⟩ := field
    rw [put]
    split
    · next same => simp [without, same]
    · split
      · simp [without]
      · simp only [without] at ih ⊢
        rw [List.filter_cons, List.filter_cons, ih]

theorem find?_without (fields : Fields α) {name other : String} (differs : other ≠ name) :
    find? (without fields name) other = find? fields other := by
  induction fields with
  | nil => rfl
  | cons field rest ih =>
    obtain ⟨k, v⟩ := field
    simp only [without] at ih ⊢
    by_cases dropped : k = name
    · have apart : k ≠ other := fun same => differs (same.symm.trans dropped)
      rw [List.filter_cons_of_neg (by simp [dropped]), ih, find?, if_neg apart]
    · rw [List.filter_cons_of_pos (by simp [dropped]), find?, find?, ih]

end Fields

/-- A body but for the field of a name; none counts as an object without any. -/
def bodyWithout (body : Option Json) (name : String) : Option Json :=
  match body with
  | none => some (.object [])
  | some (.object fields) => some (.object (Fields.without fields name))
  | some other => some other

/-- An outgoing request but for the field of its cursor. -/
def Outgoing.withoutCursor (o : Outgoing) (rule : CursorRule) : Outgoing :=
  match rule.location with
  | .query => { o with query := Fields.without o.query rule.param }
  | .body => { o with body := bodyWithout o.body rule.param }

theorem bodyWithout_putBodyField (body : Option Json) (name : String) (value : Json) :
    bodyWithout (putBodyField body name value) name = bodyWithout body name := by
  rcases body with _ | (_ | _ | _ | _ | _ | fields)
  case none =>
    have nothing := Fields.without_put [] name value
    exact congrArg (some ∘ Json.object) nothing
  case some.object =>
    have same := Fields.without_put fields name value
    exact congrArg (some ∘ Json.object) same
  all_goals rfl

theorem bodyField?_bodyWithout (body : Option Json) {name other : String} (differs : other ≠ name) :
    bodyField? (bodyWithout body name) other = bodyField? body other := by
  rcases body with _ | (_ | _ | _ | _ | _ | fields)
  case some.object => exact Fields.find?_without fields differs
  all_goals rfl

namespace Outgoing

variable {o p : Outgoing} {rule : CursorRule}

/-- Requests that are alike but for the cursor have the same headers. -/
theorem headers_of_without (same : o.withoutCursor rule = p.withoutCursor rule) :
    o.headers = p.headers := by
  cases location : rule.location <;>
    simp only [withoutCursor, location, Outgoing.mk.injEq] at same <;> exact same.2.1

/-- Requests that are alike but for the cursor have the same other fields. -/
theorem fields_of_without (same : o.withoutCursor rule = p.withoutCursor rule) {name : String}
    (other : name ≠ rule.param) :
    Fields.find? o.query name = Fields.find? p.query name ∧
      bodyField? o.body name = bodyField? p.body name := by
  cases location : rule.location with
  | query =>
    simp only [withoutCursor, location, Outgoing.mk.injEq] at same
    obtain ⟨query, _, body⟩ := same
    rw [← Fields.find?_without o.query other, query, Fields.find?_without p.query other, body]
    exact ⟨rfl, rfl⟩
  | body =>
    simp only [withoutCursor, location, Outgoing.mk.injEq] at same
    obtain ⟨query, _, body⟩ := same
    rw [← bodyField?_bodyWithout o.body other, body, bodyField?_bodyWithout p.body other, query]
    exact ⟨rfl, rfl⟩

end Outgoing

section

variable {Request : Type} [CursorRequest Request] [LawfulCursorRequest Request]

/-- Of cursors set one after another the last one counts. -/
theorem foldl_setCursor_concat (request : Request) (cursors : List (Option String))
    (last : Option String) :
    (cursors ++ [last]).foldl CursorRequest.setCursor request =
      CursorRequest.setCursor request last := by
  induction cursors generalizing request with
  | nil => rfl
  | cons cursor cursors ih =>
    rw [List.cons_append, List.foldl_cons, ih, LawfulCursorRequest.setCursor_setCursor]

/-- On a request that carries none, no cursor set at all is as good as none set last. -/
theorem foldl_setCursor {request : Request} (fresh : CursorRequest.setCursor request none = request)
    (cursors : List (Option String)) :
    cursors.foldl CursorRequest.setCursor request =
      CursorRequest.setCursor request cursors.getLast?.join := by
  rcases List.eq_nil_or_concat cursors with rfl | ⟨front, last, rfl⟩
  · exact fresh.symm
  · rw [List.concat_eq_append, foldl_setCursor_concat, List.getLast?_concat]
    rfl

/-- Every request of a walk is the one it was given, with a cursor of its own. -/
theorem Walk.requests_after {Service Page Context Value Kept : Type} [CursorPage Page]
    (s : Setting Service Request Page Context Value Kept) (turns : Nat) (request : Request)
    (initialCursor : Option String) (service : Service) (kept : Kept) :
    ∀ sent ∈ requests (standing (after s turns
        ⟨request, service, kept, Progress.start initialCursor, []⟩)).events,
      ∃ cursor, sent = CursorRequest.setCursor request cursor := by
  intro sent member
  obtain ⟨events, same, _, trace⟩ := after_trace s turns
    ⟨request, service, kept, Progress.start initialCursor, []⟩
  rw [same] at member
  obtain ⟨k, bound, found⟩ := List.getElem_of_mem member
  exact trace.request_template (List.getElem?_eq_some_iff.mpr ⟨bound, found⟩)

end

namespace Endpoint

variable (e : Endpoint)

theorem setCursor_none : CursorRequest.setCursor e.request none = e.request := rfl

theorem outgoing_without (cursor : Option String) :
    (e.request.setCursor cursor).outgoing.withoutCursor e.cursor =
      e.request.outgoing.withoutCursor e.cursor := by
  cases cursor with
  | none => rfl
  | some cursor =>
    have fresh : e.request.outgoing = ⟨e.request.query, e.request.headers, e.request.body⟩ := rfl
    cases location : e.cursor.location with
    | query =>
      rw [outgoing_query location, fresh]
      simp only [Outgoing.withoutCursor, location, Fields.without_put]
    | body =>
      rw [outgoing_body location, fresh]
      simp only [Outgoing.withoutCursor, location, bodyWithout_putBodyField]

/-- The page size stands in the query or in the body of the request, where the cursor goes. -/
theorem size_request {size : PageSize} (given : e.pageSize = some size) :
    (e.cursor.location = .query →
      Fields.find? e.request.query size.param = some (String.ofList (Decimal.natText size.value))) ∧
    (e.cursor.location = .body → takesFields e.body = true →
      bodyField? e.request.body size.param = some (.ofNat size.value)) := by
  refine ⟨fun location => ?_, fun location takes => ?_⟩
  · simp only [request, given, location, Fields.find?_put_self]
  · simp only [request, given, location, bodyField?_putBodyField _ _ takes]

/-- What every outgoing request of an endpoint has in common, whatever its cursor: all but the cursor's
field is as in the first one, and so are its headers, the other fields of its query and of its body,
and its page size, if that has a name of its own. -/
structure Steady (o : Outgoing) : Prop where
  without : o.withoutCursor e.cursor = e.request.outgoing.withoutCursor e.cursor
  headers : o.headers = e.headers
  query : ∀ name, name ≠ e.cursor.param →
    Fields.find? o.query name = Fields.find? e.request.outgoing.query name
  body : ∀ name, name ≠ e.cursor.param →
    bodyField? o.body name = bodyField? e.request.outgoing.body name
  sizeInQuery : ∀ size, e.pageSize = some size → size.param ≠ e.cursor.param →
    e.cursor.location = .query →
    Fields.find? o.query size.param = some (String.ofList (Decimal.natText size.value))
  sizeInBody : ∀ size, e.pageSize = some size → size.param ≠ e.cursor.param →
    e.cursor.location = .body → takesFields e.body = true →
    bodyField? o.body size.param = some (.ofNat size.value)

theorem steady (cursor : Option String) : e.Steady (e.request.setCursor cursor).outgoing := by
  have same := e.outgoing_without cursor
  have others := fun name (other : name ≠ e.cursor.param) => Outgoing.fields_of_without same other
  refine ⟨same, Outgoing.headers_of_without same, fun name other => (others name other).1,
    fun name other => (others name other).2, fun size given apart location => ?_,
    fun size given apart location takes => ?_⟩
  · rw [(others _ apart).1]
    exact (e.size_request given).1 location
  · rw [(others _ apart).2]
    exact (e.size_request given).2 location takes

/-- Only the cursor changes from page to page. After any cursors set on the request of an endpoint it is
that request with the last of them alone; with none at the end it goes out as at the beginning, and
always with nothing changed but the field of the cursor, as does every request of every walk from there.
A listing of a bucket keeps its filter and carries the last cursor. -/
theorem cursor_alone (cursors : List (Option String)) :
    cursors.foldl CursorRequest.setCursor e.request = e.request.setCursor cursors.getLast?.join ∧
    (cursors.getLast?.join = none →
      (cursors.foldl CursorRequest.setCursor e.request).outgoing = e.request.outgoing) ∧
    e.Steady (cursors.foldl CursorRequest.setCursor e.request).outgoing ∧
    (∀ {Service Context Value Kept : Type} (s : Setting Service ListRequest ListPage Context Value Kept)
      (turns : Nat) (initialCursor : Option String) (service : Service) (kept : Kept),
      ∀ sent ∈ Walk.requests (Walk.standing (Walk.after s turns
          ⟨e.request, service, kept, Progress.start initialCursor, []⟩)).events,
        e.Steady sent.outgoing) ∧
    ∀ filter : Bucket.Filter,
      cursors.foldl CursorRequest.setCursor filter.request = ⟨filter, cursors.getLast?.join⟩ := by
  have last : cursors.foldl CursorRequest.setCursor e.request =
      e.request.setCursor cursors.getLast?.join := foldl_setCursor e.setCursor_none cursors
  refine ⟨last, fun cleared => ?_, ?_, fun s turns initialCursor service kept sent member => ?_,
    fun filter => ?_⟩
  · rw [last, cleared]
    rfl
  · rw [last]
    exact e.steady _
  · obtain ⟨cursor, rfl⟩ := Walk.requests_after s turns e.request initialCursor service kept sent member
    exact e.steady cursor
  · have fresh : CursorRequest.setCursor filter.request none = filter.request := rfl
    exact foldl_setCursor fresh cursors

end Endpoint

end Pager
