import Pager.Proofs.Walk.Account
import Pager.Proofs.Walk.Run

namespace Pager

variable {Service Request Page Context Value Kept : Type}

/-- The event of a deed that came off. -/
def Event.ofDeed : Request ⊕ Value → Event Request Value
  | .inl request => .fetched request
  | .inr value => .emitted value

namespace Walk

/-- What happens about a page that came, when the sink takes what is shown of it. -/
def visit (shown : Page → Option Value) : Request × Page → List (Event Request Value)
  | (request, page) => .fetched request :: (shown page).toList.map .emitted

/-- Where nothing was refused, the events are what was done. -/
theorem map_ofDeed {events : List (Event Request Value)}
    (taken : ∀ verdict ∈ events.filterMap Event.verdict?, verdict = none) :
    (events.map Event.deed).map Event.ofDeed = events := by
  induction events with
  | nil => rfl
  | cons e rest ih =>
    cases e with
    | fetched request => exact congrArg (Event.fetched request :: ·) (ih taken)
    | emitted value =>
      exact congrArg (Event.emitted value :: ·) (ih fun v later => taken v (List.mem_cons_of_mem _ later))
    | refused value fault => cases taken (some fault) List.mem_cons_self

/-- Where nothing was refused, what was offered was taken. -/
theorem accepted_eq_offers {events : List (Event Request Value)}
    (taken : ∀ verdict ∈ events.filterMap Event.verdict?, verdict = none) :
    accepted events = offers events := by
  induction events with
  | nil => rfl
  | cons e rest ih =>
    cases e with
    | fetched request => exact ih taken
    | emitted value =>
      exact congrArg (value :: ·) (ih fun v later => taken v (List.mem_cons_of_mem _ later))
    | refused value fault => cases taken (some fault) List.mem_cons_self

theorem map_deeds (s : Setting Service Request Page Context Value Kept) (sent : List Request)
    (came : List Page) :
    ((sent.zip (came.map .ok)).flatMap (deeds s)).map Event.ofDeed =
      (sent.zip came).flatMap (visit s.shown) := by
  have each : (fun pair : Request × Page => (deeds s (pair.1, .ok pair.2)).map Event.ofDeed) =
      visit s.shown := by
    funext pair
    simp [deeds, visit, Event.ofDeed]
  rw [List.zip_map_right, List.flatMap_map, List.map_flatMap, ← each]
  rfl

theorem offers_visits (shown : Page → Option Value) {sent : List Request} {came : List Page}
    (same : sent.length = came.length) :
    offers ((sent.zip came).flatMap (visit shown)) = came.filterMap shown := by
  induction sent generalizing came with
  | nil =>
    rw [List.eq_nil_of_length_eq_zero same.symm]
    rfl
  | cons request rest ih =>
    cases came with
    | nil => cases same
    | cons page came =>
      rw [List.zip_cons_cons, List.flatMap_cons, visit, List.cons_append, offers_fetched,
        offers_of_offers, ih (Nat.succ.inj same)]
      cases there : shown page <;> simp [there]

/-- What an invocation has delivered that was answered with these pages. -/
structure Delivered (s : Setting Service Request Page Context Value Kept) (service : Service)
    (kept : Kept) (f : Finished Service Request Value Kept) (came : List Page) : Prop where
  answered : answers s.operation service f.standing.events = came.map .ok
  events : f.standing.events =
    ((requests f.standing.events).zip came).flatMap (visit s.shown) ++ s.shownLast.toList.map .emitted
  accepted : accepted f.standing.events = came.filterMap s.shown ++ s.shownLast.toList
  taken : Takes s kept (Walk.accepted f.standing.events) f.standing.kept
  pages : f.outcome.pages = came.length
  emitted : f.outcome.emitted = (Walk.accepted f.standing.events).length

theorem length_requests {operation : Operation Service Request Page} {service : Service}
    {events : List (Event Request Value)} {came : List Page}
    (answered : answers operation service events = came.map .ok) :
    (requests events).length = came.length := by
  rw [← answers_length operation service, answered, List.length_map]

variable [CursorPage Page]
variable {s : Setting Service Request Page Context Value Kept} {service : Service} {kept : Kept}
variable {turns : Nat} {request : Request} {control : Control}
variable {f : Finished Service Request Value Kept}

/-- Without a fault every fetch gave a page, and every value was taken. -/
theorem Finished.Explained.clean (explained : f.Explained s service kept) (clean : f.fault = none) :
    (∀ answer ∈ answers s.operation service f.standing.events, answer.isOk = true) ∧
      ∀ verdict ∈ verdicts s.sink kept f.standing.events, verdict = none := by
  obtain ⟨now, termination, told⟩ := f
  cases clean
  cases explained with
  | stopped _ came taken => exact ⟨came, taken⟩

variable [CursorRequest Request]

/-- The events of a walk that got a page for each request, and from whose sink nothing came back. -/
theorem Trace.events_of_answered {first : Request} {before : Nat} {events : List (Event Request Value)}
    {came : List Page} (trace : Trace s first service kept before turns true events)
    (answered : answers s.operation service events = came.map .ok)
    (taken : ∀ verdict ∈ events.filterMap Event.verdict?, verdict = none) :
    events = ((requests events).zip came).flatMap (visit s.shown) ++
      s.shownLast.toList.map .emitted := by
  have all : (came.map (Except.ok : Page → Except Fault Page)).all Except.isOk = true := by
    simp [Except.isOk, Except.toBool]
  -- The trace has the order of what was done; with no refusal that is the order of the events.
  have order := trace.order
  rw [answered, all, Bool.and_self, if_pos rfl] at order
  have undone := map_ofDeed taken
  rw [order, List.map_append, map_deeds, List.map_map] at undone
  exact undone.symm

theorem counted_of_execute (run : execute s turns request control service kept = some f) :
    Counted { s with callerPages := control.callerPages } service kept f.standing := by
  obtain ⟨left, ends, rfl⟩ := Option.map_eq_some_iff.mp run
  obtain ⟨booked, explained⟩ := (Underway.start request control.initialCursor).loop ends
  exact (booked.finish explained).1

/-- An invocation without a fault has delivered what is shown of its pages. -/
theorem delivered_of_execute (run : execute s turns request control service kept = some f)
    (clean : f.fault = none) : ∃ came, Delivered s service kept f came := by
  obtain ⟨replayed, trace⟩ := trace_of_execute run
  have counted := counted_of_execute run
  obtain ⟨all, silent⟩ := (explained_of_execute run).clean clean
  obtain ⟨came, answered⟩ :
      ∃ came : List Page, answers s.operation service f.standing.events = came.map .ok :=
    ⟨_, map_ok_pages all⟩
  have taken : ∀ verdict ∈ f.standing.events.filterMap Event.verdict?, verdict = none := by
    rw [trace.verdicts]
    exact silent
  have events := trace.events_of_answered answered taken
  have offered : offers f.standing.events = came.filterMap s.shown ++ s.shownLast.toList := by
    rw [congrArg offers events, offers_append, offers_visits _ (length_requests answered),
      offers_of_taken]
    rfl
  have said : verdicts s.sink kept f.standing.events =
      (offers f.standing.events).map fun _ => none := by
    rw [List.map_const', List.eq_replicate_iff]
    exact ⟨replies_length _ _ _, silent⟩
  have counts : pages (answers s.operation service f.standing.events) = came :=
    answered ▸ pages_map_ok came
  refine ⟨came, answered, events, ?_, ?_, ?_, ?_⟩
  · rw [accepted_eq_offers taken, offered]
  · rw [accepted_eq_offers taken]
    exact Prod.ext replayed.offered said
  · exact counted.pages.trans (congrArg List.length counts)
  · have count : f.outcome.emitted = (verdicts s.sink kept f.standing.events).count none :=
      counted.emitted
    rw [count, said, List.map_const', List.count_replicate_self, accepted_eq_offers taken]

end Walk

end Pager
