import Pager.Endpoint
import Pager.Paging.Control
import Pager.Projection
import Pager.Sink

namespace Pager

/-- A list operation against a service whose answers may depend on everything asked before. -/
structure Operation (Service Request Page : Type) where
  name : String
  fetch : Service → Request → Service × Except Fault Page
  /-- How a fault of fetching is told to the caller. -/
  normalize : Fault → Fault

/-- A request that carries a cursor. -/
class CursorRequest (Request : Type) where
  setCursor : Request → Option String → Request

/-- A page that names the cursor of the next one. -/
class CursorPage (Page : Type) where
  nextCursor : Page → Option String

/-- A request on which a cursor replaces the one set before it. -/
class LawfulCursorRequest (Request : Type) [CursorRequest Request] : Prop where
  setCursor_setCursor : ∀ (request : Request) (earlier later : Option String),
    CursorRequest.setCursor (CursorRequest.setCursor request earlier) later =
      CursorRequest.setCursor request later

instance : CursorRequest ListRequest := ⟨ListRequest.setCursor⟩

instance : LawfulCursorRequest ListRequest := ⟨fun _ _ _ => rfl⟩

instance : CursorPage ListPage := ⟨ListPage.nextCursor⟩

inductive Event (Request Value : Type)
  | fetched (request : Request)
  | emitted (value : Value)
  | refused (value : Value) (fault : Fault)
  deriving DecidableEq, Repr

/-- Everything that stays the same during a walk. -/
structure Setting (Service Request Page Context Value Kept : Type) where
  operation : Operation Service Request Page
  projection : Projection Page Context Value
  context : Context
  sink : Sink Kept Value
  callerPages : Bool
  maxPages : Option Nat

/-- Where a walk stands: the request as it was last sent, the far side, the sink and the progress,
and what happened so far. -/
structure Standing (Service Request Value Kept : Type) where
  request : Request
  service : Service
  kept : Kept
  progress : Progress
  events : List (Event Request Value)

namespace Walk

variable {Service Request Page Context Value Kept : Type}

/-- A walk that has left its loop. -/
structure Finished (Service Request Value Kept : Type) where
  standing : Standing Service Request Value Kept
  termination : Termination
  fault : Option Fault

/-- Offers a value to the sink, if there is one. -/
def offer (s : Setting Service Request Page Context Value Kept)
    (now : Standing Service Request Value Kept) (value : Option Value) :
    Standing Service Request Value Kept × Option Fault :=
  match value with
  | none => (now, none)
  | some v =>
    match s.sink.emit now.kept v with
    | (kept, none) =>
      let progress := now.progress.recordEmission
      ({ now with kept, progress, events := now.events ++ [.emitted v] }, none)
    | (kept, some fault) =>
      ({ now with kept, events := now.events ++ [.refused v fault] }, some fault)

/-- Why a walk that fetched and emitted its page stops there, if it does. -/
def stop? (s : Setting Service Request Page Context Value Kept) (p : Progress) :
    Option Termination :=
  if s.callerPages then some .userLimited
  else if !p.hasMore then some .exhausted
  else match s.maxPages with
    | some cap => if cap ≤ p.pages then some .pageLimit else none
    | none => none

/-- One turn of the loop: the cursor of the page before is sent, and what is shown of the new page
is offered to the sink. The walk stops, or stands before its next turn. -/
def turn [CursorRequest Request] [CursorPage Page]
    (s : Setting Service Request Page Context Value Kept)
    (now : Standing Service Request Value Kept) :
    Finished Service Request Value Kept ⊕ Standing Service Request Value Kept :=
  let request := CursorRequest.setCursor now.request now.progress.cursor
  let (service, answer) := s.operation.fetch now.service request
  let now := { now with request, service, events := now.events ++ [.fetched request] }
  match answer with
  | .error fault => .inl ⟨now, .faulted, some (s.operation.normalize fault)⟩
  | .ok page =>
    let now := { now with progress := now.progress.recordPage }
    let value := if s.projection.isDeferred then none else s.projection.apply (some page) s.context
    match offer s now value with
    | (now, some fault) => .inl ⟨now, .faulted, some fault⟩
    | (now, none) =>
      let now := { now with progress := now.progress.advance (CursorPage.nextCursor page) }
      match stop? s now.progress with
      | some termination => .inl ⟨now, termination, none⟩
      | none => .inr now

/-- The loop, at most `turns` times; none when it has not ended by then. -/
def loop [CursorRequest Request] [CursorPage Page]
    (s : Setting Service Request Page Context Value Kept) :
    Nat → Standing Service Request Value Kept → Option (Finished Service Request Value Kept)
  | 0, _ => none
  | turns + 1, now =>
    match turn s now with
    | .inl finished => some finished
    | .inr now => loop s turns now

/-- The emission after the loop, of a projection that waits for it. -/
def finish (s : Setting Service Request Page Context Value Kept)
    (f : Finished Service Request Value Kept) : Finished Service Request Value Kept :=
  if s.projection.isDeferred && f.fault.isNone then
    match offer s f.standing (s.projection.apply none s.context) with
    | (now, none) => { f with standing := now }
    | (now, some fault) => ⟨now, .faulted, some fault⟩
  else f

def Finished.outcome (f : Finished Service Request Value Kept) : Outcome :=
  Outcome.ofProgress f.termination f.standing.progress f.fault

/-- One invocation from its first request to its outcome, if it ends within `turns` pages. -/
def run [CursorRequest Request] [CursorPage Page]
    (s : Setting Service Request Page Context Value Kept) (turns : Nat) (request : Request)
    (initialCursor : Option String) (service : Service) (kept : Kept) :
    Option (Finished Service Request Value Kept) :=
  (loop s turns ⟨request, service, kept, Progress.start initialCursor, []⟩).map (finish s)

/-- One invocation under its caller's control. -/
def execute [CursorRequest Request] [CursorPage Page]
    (s : Setting Service Request Page Context Value Kept) (turns : Nat) (request : Request)
    (control : Control) (service : Service) (kept : Kept) :
    Option (Finished Service Request Value Kept) :=
  run { s with callerPages := control.callerPages } turns request control.initialCursor service kept

end Walk

end Pager
