import Pager.Proofs.Walk.Chain

namespace Pager

variable {Service Request Page Context Value Kept : Type}

/-- The same setting, in which something else is shown of the pages. -/
def Setting.showing (s : Setting Service Request Page Context Value Kept)
    (projection : Projection Page Context Value) : Setting Service Request Page Context Value Kept :=
  { s with projection }

/-- Standings that differ in nothing but what was emitted. -/
structure Standing.SameButEmitted (one other : Standing Service Request Value Kept) : Prop where
  request : one.request = other.request
  service : one.service = other.service
  cursor : one.progress.cursor = other.progress.cursor
  pages : one.progress.pages = other.progress.pages
  requests : Walk.requests one.events = Walk.requests other.events

namespace Walk

/-- Ends of walks that differ in nothing but what was emitted. -/
structure Finished.SameButEmitted (f g : Finished Service Request Value Kept) : Prop where
  standing : f.standing.SameButEmitted g.standing
  termination : f.termination = g.termination
  fault : f.fault = g.fault

end Walk

namespace Standing.SameButEmitted

variable {one other : Standing Service Request Value Kept} [CursorRequest Request]

theorem asked (same : one.SameButEmitted other) : one.asked = other.asked := by
  rw [Standing.asked, Standing.asked, same.request, same.cursor]

theorem sent (same : one.SameButEmitted other) (service : Service) :
    (one.sent service).SameButEmitted (other.sent service) where
  request := same.asked
  service := rfl
  cursor := same.cursor
  pages := same.pages
  requests := by
    rw [Standing.sent, Standing.sent, Walk.requests_append, Walk.requests_append, same.requests,
      same.asked]

theorem passed [CursorPage Page] (same : one.SameButEmitted other) (service : Service) (page : Page)
    (kept after : Kept) (value shown : Option Value) :
    (one.passed service kept page value).SameButEmitted (other.passed service after page shown) where
  request := same.asked
  service := rfl
  cursor := rfl
  pages := congrArg (· + 1) same.pages
  requests := by
    simp only [Standing.passed, Walk.requests_append, Walk.requests_fetched, Walk.requests_of_taken,
      same.requests, same.asked]

end Standing.SameButEmitted

namespace Walk

variable {s : Setting Service Request Page Context Value Kept}
variable (projection : Projection Page Context Value)

/-- When a walk stops does not hang on what was emitted. -/
theorem stop?_showing {one other : Standing Service Request Value Kept}
    (same : one.SameButEmitted other) :
    stop? (s.showing projection) other.progress = stop? s one.progress := by
  rw [stop?, stop?, Progress.hasMore, Progress.hasMore, same.cursor, same.pages]
  rfl

variable [CursorRequest Request] [CursorPage Page]

theorem turn_showing {one other : Standing Service Request Value Kept}
    (same : one.SameButEmitted other)
    (accepts : s.sink.Accepts one.kept) (again : s.sink.Accepts other.kept) :
    (∃ f g, turn s one = .inl f ∧ turn (s.showing projection) other = .inl g ∧ f.SameButEmitted g) ∨
    ∃ next later, turn s one = .inr next ∧ turn (s.showing projection) other = .inr later ∧
      next.SameButEmitted later ∧ s.sink.Accepts next.kept ∧ s.sink.Accepts later.kept := by
  have refetched : (s.showing projection).operation.fetch other.service other.asked =
      s.operation.fetch one.service one.asked := by
    rw [same.service, same.asked]
    rfl
  rcases fetched : s.operation.fetch one.service one.asked with ⟨service, fault | page⟩ <;>
    rw [fetched] at refetched
  · exact .inl ⟨_, _, (Turned.failed fetched).eq_turn, (Turned.failed refetched).eq_turn,
      same.sent service, rfl, rfl⟩
  · obtain ⟨kept, takes, accepts⟩ := accepts.takes (s.shown page).toList
    obtain ⟨after, retakes, again⟩ :=
      Sink.Accepts.takes (s := s.showing projection) again ((s.showing projection).shown page).toList
    have ahead := same.passed service page kept after (s.shown page)
      ((s.showing projection).shown page)
    rw [turn_of_page fetched takes, turn_of_page refetched retakes]
    cases stop : stop? s (one.passed service kept page (s.shown page)).progress with
    | some termination =>
      rw [behind_of_stop stop, behind_of_stop ((stop?_showing projection ahead).trans stop)]
      exact .inl ⟨_, _, rfl, rfl, ahead, rfl, rfl⟩
    | none =>
      rw [behind_of_onward stop, behind_of_onward ((stop?_showing projection ahead).trans stop)]
      exact .inr ⟨_, _, rfl, rfl, ahead, accepts, again⟩

theorem loop_showing (turns : Nat) {one other : Standing Service Request Value Kept}
    (same : one.SameButEmitted other) (accepts : s.sink.Accepts one.kept)
    (again : s.sink.Accepts other.kept) :
    Option.Rel Finished.SameButEmitted (loop s turns one) (loop (s.showing projection) turns other) := by
  induction turns generalizing one other with
  | zero => exact .none
  | succ turns ih =>
    simp only [loop]
    rcases turn_showing projection same accepts again with
      ⟨f, g, first, second, ahead⟩ | ⟨next, later, first, second, ahead, accepts, again⟩
    · simp only [first, second]
      exact .some ahead
    · simp only [first, second]
      exact ih ahead accepts again

/-- Whatever an invocation shows of each page, it makes the same fetches and ends in the same way, as long
as its sink takes everything. -/
theorem execute_showing (mode : s.projection.mode = .eachPage)
    {projection : Projection Page Context Value} (again : projection.mode = .eachPage) (turns : Nat)
    (request : Request) (control : Control) (service : Service) {kept : Kept}
    (accepts : s.sink.Accepts kept) :
    Option.Rel Finished.SameButEmitted (execute s turns request control service kept)
      (execute (s.showing projection) turns request control service kept) := by
  rw [execute_eachPage mode, execute_eachPage (s := s.showing projection) again]
  exact loop_showing (s := { s with callerPages := control.callerPages }) projection turns
    ⟨rfl, rfl, rfl, rfl, rfl⟩ accepts accepts

end Walk

end Pager
