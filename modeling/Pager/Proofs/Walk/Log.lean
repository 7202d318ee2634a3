import Pager.Proofs.Walk.Offering

namespace Pager

variable {Service Request Page Context Value Kept : Type}

/-- What is done in an event: a request is sent or a value offered. -/
def Event.deed : Event Request Value → Request ⊕ Value
  | .fetched request => .inl request
  | .emitted value => .inr value
  | .refused value _ => .inr value

/-- What the sink said to the value offered in an event. -/
def Event.verdict? : Event Request Value → Option (Option Fault)
  | .fetched _ => none
  | .emitted _ => some none
  | .refused _ fault => some (some fault)

namespace Walk

/-- The requests sent, in their order. -/
def requests (events : List (Event Request Value)) : List Request :=
  events.filterMap fun e => e.deed.getLeft?

/-- The values offered, in their order. -/
def offers (events : List (Event Request Value)) : List Value :=
  events.filterMap fun e => e.deed.getRight?

/-- The values the sink took, in their order. -/
def accepted (events : List (Event Request Value)) : List Value :=
  events.filterMap fun
    | .emitted value => some value
    | _ => none

/-- What a service answers to the requests among the events, one after another. -/
def answers (operation : Operation Service Request Page) (service : Service)
    (events : List (Event Request Value)) : List (Except Fault Page) :=
  (replies operation.fetch service (requests events)).2

/-- The pages among answers. -/
def pages (answers : List (Except Fault Page)) : List Page :=
  answers.filterMap Except.toOption

/-- What is done about one request and its answer: it is sent, and what its page shows is offered. -/
def deeds (s : Setting Service Request Page Context Value Kept) :
    Request × Except Fault Page → List (Request ⊕ Value)
  | (request, .error _) => [.inl request]
  | (request, .ok page) => .inl request :: (s.shown page).toList.map .inr

@[simp] theorem requests_nil : requests ([] : List (Event Request Value)) = [] := rfl

@[simp] theorem requests_fetched (request : Request) (events : List (Event Request Value)) :
    requests (.fetched request :: events) = request :: requests events := rfl

@[simp] theorem requests_emitted (value : Value) (events : List (Event Request Value)) :
    requests (.emitted value :: events) = requests events := rfl

@[simp] theorem requests_refused (value : Value) (fault : Fault)
    (events : List (Event Request Value)) :
    requests (.refused value fault :: events) = requests events := rfl

@[simp] theorem offers_nil : offers ([] : List (Event Request Value)) = [] := rfl

@[simp] theorem offers_fetched (request : Request) (events : List (Event Request Value)) :
    offers (.fetched request :: events) = offers events := rfl

@[simp] theorem offers_emitted (value : Value) (events : List (Event Request Value)) :
    offers (.emitted value :: events) = value :: offers events := rfl

@[simp] theorem offers_refused (value : Value) (fault : Fault)
    (events : List (Event Request Value)) :
    offers (.refused value fault :: events) = value :: offers events := rfl

theorem requests_append (earlier later : List (Event Request Value)) :
    requests (earlier ++ later) = requests earlier ++ requests later :=
  List.filterMap_append

theorem requests_of_offers (values : List Value) (events : List (Event Request Value)) :
    requests (values.map .emitted ++ events) = requests events := by
  induction values with
  | nil => rfl
  | cons value rest ih => simpa using ih

theorem offers_of_offers (values : List Value) (events : List (Event Request Value)) :
    offers (values.map .emitted ++ events) = values ++ offers events := by
  induction values with
  | nil => rfl
  | cons value rest ih => simpa using ih

theorem requests_of_taken (values : List Value) :
    requests (values.map (.emitted : Value → Event Request Value)) = [] := by
  simpa using requests_of_offers values ([] : List (Event Request Value))

theorem offers_of_taken (values : List Value) :
    offers (values.map (.emitted : Value → Event Request Value)) = values := by
  simpa using offers_of_offers values ([] : List (Event Request Value))

theorem verdicts_of_offers (values : List Value) (events : List (Event Request Value)) :
    (values.map Event.emitted ++ events).filterMap Event.verdict? =
      values.map (fun _ => none) ++ events.filterMap Event.verdict? := by
  induction values with
  | nil => rfl
  | cons value rest ih => simpa [Event.verdict?] using ih

/-- A projection is asked for every page or once behind the loop, never both. -/
theorem shown_or_last (s : Setting Service Request Page Context Value Kept) (page : Page) :
    s.shown page = none ∨ s.shownLast = none := by
  cases mode : s.projection.mode with
  | eachPage => exact Or.inr (Setting.shownLast_eachPage mode)
  | deferred => exact Or.inl (Setting.shown_deferred mode page)

theorem eachPage_of_shown {s : Setting Service Request Page Context Value Kept} {page : Page}
    {value : Value} (shown : s.shown page = some value) : s.projection.mode = .eachPage := by
  cases mode : s.projection.mode with
  | eachPage => rfl
  | deferred => simp [Setting.shown_deferred mode] at shown

theorem answers_length (operation : Operation Service Request Page) (service : Service)
    (events : List (Event Request Value)) :
    (answers operation service events).length = (requests events).length :=
  replies_length _ _ _

theorem request_before {events : List (Event Request Value)} {k : Nat} {later : Request}
    (sent : (requests events)[k + 1]? = some later) :
    ∃ earlier, (requests events)[k]? = some earlier := by
  obtain ⟨bound, _⟩ := List.getElem?_eq_some_iff.mp sent
  exact ⟨_, List.getElem?_eq_getElem (by omega)⟩

/-- A refusal that ends a log ends it behind any front without refusals. -/
theorem refusal_last_append {front rest : List (Event Request Value)} {value : Value} {fault : Fault}
    (taken : ∀ e ∈ front, e ≠ .refused value fault)
    (last : ∀ e ∈ rest.dropLast, e ≠ .refused value fault) :
    ∀ e ∈ (front ++ rest).dropLast, e ≠ .refused value fault := by
  intro e member
  rw [List.dropLast_append] at member
  split at member
  · exact taken e (List.dropLast_subset _ member)
  · rcases List.mem_append.mp member with here | later
    · exact taken e here
    · exact last e later

/-- The log is what was done: replayed to the service and to the sink, it leads to where they are. -/
structure Replayed (s : Setting Service Request Page Context Value Kept) (service : Service)
    (kept : Kept) (events : List (Event Request Value))
    (now : Standing Service Request Value Kept) : Prop where
  served : (replies s.operation.fetch service (requests events)).1 = now.service
  offered : (replies s.sink.emit kept (offers events)).1 = now.kept

theorem Replayed.taken {s : Setting Service Request Page Context Value Kept} {service : Service}
    {kept final : Kept} {values : List Value} {now : Standing Service Request Value Kept}
    (takes : Takes s kept values final) (served : service = now.service) (offered : final = now.kept) :
    Replayed s service kept (values.map .emitted) now := by
  refine ⟨?_, ?_⟩
  · rw [requests_of_taken]
    exact served
  · rw [offers_of_taken, takes.eq]
    exact offered

theorem Replayed.refused {s : Setting Service Request Page Context Value Kept} {service : Service}
    {kept final : Kept} {value : Value} {fault : Fault} {now : Standing Service Request Value Kept}
    (verdict : s.sink.emit kept value = (final, some fault)) (served : service = now.service)
    (offered : final = now.kept) : Replayed s service kept [.refused value fault] now :=
  ⟨served, (congrArg Prod.fst verdict).trans offered⟩

/-- A page in front of what is replayed. -/
theorem Replayed.passed {s : Setting Service Request Page Context Value Kept} {first : Request}
    {service later : Service} {page : Page} {kept after : Kept} {rest : List (Event Request Value)}
    {now : Standing Service Request Value Kept}
    (fetched : s.operation.fetch service first = (later, .ok page))
    (takes : Takes s kept (s.shown page).toList after) (replayed : Replayed s later after rest now) :
    Replayed s service kept (.fetched first :: ((s.shown page).toList.map .emitted ++ rest)) now := by
  refine ⟨?_, ?_⟩
  · rw [requests_fetched, requests_of_offers, replies_cons, fetched]
    exact replayed.served
  · rw [offers_fetched, offers_of_offers, replies_append, takes.eq]
    exact replayed.offered

/-- Behind the loop no request is sent. -/
theorem requests_finish (s : Setting Service Request Page Context Value Kept)
    (f : Finished Service Request Value Kept) :
    requests (finish s f).standing.events = requests f.standing.events := by
  obtain ⟨now, termination, fault⟩ := f
  cases fault with
  | some fault => rw [finish_faulted]
  | none =>
    rcases finish_cases s now termination with ⟨_, _, same⟩ | ⟨_, _, _, _, _, same⟩
    · rw [same]
      simp [Standing.taken, requests_append, requests_of_taken]
    · rw [same]
      simp [Standing.refusing, requests_append]

theorem cursor_finish (s : Setting Service Request Page Context Value Kept)
    (f : Finished Service Request Value Kept) :
    (finish s f).standing.progress.cursor = f.standing.progress.cursor := by
  obtain ⟨now, termination, fault⟩ := f
  cases fault with
  | some fault => rw [finish_faulted]
  | none =>
    rcases finish_cases s now termination with ⟨_, _, same⟩ | ⟨_, _, _, _, _, same⟩
    · rw [same]
      rfl
    · rw [same]
      rfl

theorem offered_of_deeds (s : Setting Service Request Page Context Value Kept)
    {sent : List Request} {answered : List (Except Fault Page)} (same : answered.length = sent.length) :
    ((sent.zip answered).flatMap (deeds s)).filterMap Sum.getRight? =
      (pages answered).filterMap s.shown := by
  induction sent generalizing answered with
  | nil =>
    rw [List.eq_nil_of_length_eq_zero same]
    rfl
  | cons request rest ih =>
    cases answered with
    | nil => simp at same
    | cons answer answered =>
      have tail := ih (Nat.succ.inj same)
      rw [List.zip_cons_cons, List.flatMap_cons, List.filterMap_append, tail]
      rcases answer with fault | page
      · rfl
      · cases shown : s.shown page <;>
          simp [deeds, pages, List.filterMap_cons, Except.toOption, shown]

end Walk

end Pager
