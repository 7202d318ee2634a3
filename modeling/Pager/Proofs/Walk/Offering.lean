import Pager.Paging.Walk

namespace Pager

/-- The state after a list of inputs taken one by one, and what was answered to each. -/
def replies {State Input Answer : Type} (step : State → Input → State × Answer) :
    State → List Input → State × List Answer
  | state, [] => (state, [])
  | state, input :: rest =>
    let (later, answer) := step state input
    let (last, answers) := replies step later rest
    (last, answer :: answers)

@[simp] theorem replies_nil {State Input Answer : Type} (step : State → Input → State × Answer)
    (state : State) : replies step state [] = (state, []) := rfl

@[simp] theorem replies_cons {State Input Answer : Type} (step : State → Input → State × Answer)
    (state : State) (input : Input) (rest : List Input) :
    replies step state (input :: rest) =
      ((replies step (step state input).1 rest).1,
        (step state input).2 :: (replies step (step state input).1 rest).2) := rfl

theorem replies_append {State Input Answer : Type} (step : State → Input → State × Answer)
    (state : State) (earlier later : List Input) :
    replies step state (earlier ++ later) =
      ((replies step (replies step state earlier).1 later).1,
        (replies step state earlier).2 ++ (replies step (replies step state earlier).1 later).2) := by
  induction earlier generalizing state with
  | nil => rfl
  | cons input rest ih => simp only [List.cons_append, replies_cons, ih]

theorem replies_length {State Input Answer : Type} (step : State → Input → State × Answer)
    (state : State) (inputs : List Input) : (replies step state inputs).2.length = inputs.length := by
  induction inputs generalizing state with
  | nil => rfl
  | cons input rest ih => simp only [replies_cons, List.length_cons, ih]

theorem mem_replies {State Input Answer : Type} {step : State → Input → State × Answer} {state : State}
    {inputs : List Input} {answer : Answer} (member : answer ∈ (replies step state inputs).2) :
    ∃ now input, (step now input).2 = answer := by
  induction inputs generalizing state with
  | nil => cases member
  | cons input rest ih =>
    rw [replies_cons] at member
    rcases List.mem_cons.mp member with rfl | later
    · exact ⟨state, input, rfl⟩
    · exact ih later

theorem replies_getElem? {State Input Answer : Type} (step : State → Input → State × Answer)
    (state : State) (inputs : List Input) (k : Nat) :
    (replies step state inputs).2[k]? =
      inputs[k]?.map fun input => (step (replies step state (inputs.take k)).1 input).2 := by
  induction inputs generalizing state k with
  | nil => rfl
  | cons input rest ih =>
    cases k with
    | zero => rfl
    | succ k => simpa using ih (step state input).1 k

variable {Service Request Page Context Value Kept : Type}

/-- What is offered for a page as it arrives: nothing when the projection waits for the end. -/
def Setting.shown (s : Setting Service Request Page Context Value Kept) (page : Page) :
    Option Value :=
  if s.projection.isDeferred then none else s.projection.apply (some page) s.context

/-- What is offered after the loop. -/
def Setting.shownLast (s : Setting Service Request Page Context Value Kept) : Option Value :=
  if s.projection.isDeferred then s.projection.apply none s.context else none

namespace Setting

variable {s : Setting Service Request Page Context Value Kept}

theorem shown_eachPage (mode : s.projection.mode = .eachPage) (page : Page) :
    s.shown page = s.projection.apply (some page) s.context := by
  simp [shown, Projection.isDeferred, mode]

theorem shown_deferred (mode : s.projection.mode = .deferred) (page : Page) :
    s.shown page = none := by
  simp [shown, Projection.isDeferred, mode]

theorem shownLast_eachPage (mode : s.projection.mode = .eachPage) : s.shownLast = none := by
  simp [shownLast, Projection.isDeferred, mode]

theorem shownLast_deferred (mode : s.projection.mode = .deferred) :
    s.shownLast = s.projection.apply none s.context := by
  simp [shownLast, Projection.isDeferred, mode]

end Setting

namespace Standing

/-- The standing once the sink took a value, if there is one. -/
def taken (now : Standing Service Request Value Kept) (kept : Kept) (value : Option Value) :
    Standing Service Request Value Kept :=
  ⟨now.request, now.service, kept,
    { now.progress with emitted := now.progress.emitted + value.toList.length },
    now.events ++ value.toList.map .emitted⟩

/-- The standing once the sink refused a value. -/
def refusing (now : Standing Service Request Value Kept) (kept : Kept) (value : Value)
    (fault : Fault) : Standing Service Request Value Kept :=
  ⟨now.request, now.service, kept, now.progress, now.events ++ [.refused value fault]⟩

variable [CursorRequest Request] [CursorPage Page]

/-- The request of the next turn. -/
def asked (now : Standing Service Request Value Kept) : Request :=
  CursorRequest.setCursor now.request now.progress.cursor

/-- The standing once the request of the turn was sent. -/
def sent (now : Standing Service Request Value Kept) (service : Service) :
    Standing Service Request Value Kept :=
  ⟨now.asked, service, now.kept, now.progress, now.events ++ [.fetched now.asked]⟩

/-- The standing once a page came back. -/
def counted (now : Standing Service Request Value Kept) (service : Service) :
    Standing Service Request Value Kept :=
  ⟨now.asked, service, now.kept, now.progress.recordPage, now.events ++ [.fetched now.asked]⟩

/-- The standing once the cursor of a page was taken over. -/
def adopt (now : Standing Service Request Value Kept) (page : Page) :
    Standing Service Request Value Kept :=
  ⟨now.request, now.service, now.kept, now.progress.advance (CursorPage.nextCursor page), now.events⟩

/-- The standing once the sink refused what was shown of a page. -/
def refused (now : Standing Service Request Value Kept) (service : Service) (kept : Kept)
    (value : Value) (fault : Fault) : Standing Service Request Value Kept :=
  ⟨now.asked, service, kept, now.progress.recordPage,
    now.events ++ [.fetched now.asked, .refused value fault]⟩

/-- The standing once the sink took what was shown of a page. -/
def passed (now : Standing Service Request Value Kept) (service : Service) (kept : Kept)
    (page : Page) (value : Option Value) : Standing Service Request Value Kept :=
  ⟨now.asked, service, kept,
    ⟨noneIfEmpty (CursorPage.nextCursor page), now.progress.pages + 1,
      now.progress.emitted + value.toList.length⟩,
    now.events ++ .fetched now.asked :: value.toList.map .emitted⟩

theorem hasMore_passed (now : Standing Service Request Value Kept) (service : Service) (kept : Kept)
    (page : Page) (value : Option Value) :
    (now.passed service kept page value).progress.hasMore =
      (noneIfEmpty (CursorPage.nextCursor page)).isSome :=
  hasCursor_noneIfEmpty _

end Standing

namespace Walk

/-- The sink takes every one of these values. -/
def Takes (s : Setting Service Request Page Context Value Kept) (kept : Kept) (values : List Value)
    (later : Kept) : Prop :=
  replies s.sink.emit kept values = (later, values.map fun _ => none)

theorem Takes.eq {s : Setting Service Request Page Context Value Kept} {kept later : Kept}
    {values : List Value} (takes : Takes s kept values later) :
    replies s.sink.emit kept values = (later, values.map fun _ => none) := takes

theorem offer_taken {s : Setting Service Request Page Context Value Kept}
    {now later : Standing Service Request Value Kept} {value : Option Value}
    (run : offer s now value = (later, none)) :
    ∃ kept, Takes s now.kept value.toList kept ∧ later = now.taken kept value := by
  cases value with
  | none =>
    simp only [offer, Prod.mk.injEq, and_true] at run
    exact ⟨now.kept, rfl, by simp [← run, Standing.taken]⟩
  | some v =>
    simp only [offer] at run
    split at run
    · rename_i kept verdict
      simp only [Prod.mk.injEq, and_true] at run
      exact ⟨kept, by simp [Takes, verdict], run.symm⟩
    · simp at run

theorem offer_refused {s : Setting Service Request Page Context Value Kept}
    {now later : Standing Service Request Value Kept} {value : Option Value} {fault : Fault}
    (run : offer s now value = (later, some fault)) :
    ∃ v kept, value = some v ∧ s.sink.emit now.kept v = (kept, some fault) ∧
      later = now.refusing kept v fault := by
  cases value with
  | none => simp [offer] at run
  | some v =>
    simp only [offer] at run
    split at run
    · simp at run
    · rename_i kept cause verdict
      simp only [Prod.mk.injEq, Option.some.injEq] at run
      obtain ⟨same, rfl⟩ := run
      exact ⟨v, kept, rfl, verdict, same.symm⟩

@[simp] theorem finish_faulted (s : Setting Service Request Page Context Value Kept)
    (now : Standing Service Request Value Kept) (termination : Termination) (fault : Fault) :
    finish s ⟨now, termination, some fault⟩ = ⟨now, termination, some fault⟩ := by
  simp [finish]

theorem finish_eachPage {s : Setting Service Request Page Context Value Kept}
    (mode : s.projection.mode = .eachPage) (f : Finished Service Request Value Kept) :
    finish s f = f := by
  simp [finish, Projection.isDeferred, mode]

/-- Behind a loop without a fault the last value is taken or refused. -/
theorem finish_cases (s : Setting Service Request Page Context Value Kept)
    (now : Standing Service Request Value Kept) (termination : Termination) :
    (∃ kept, Takes s now.kept s.shownLast.toList kept ∧
      finish s ⟨now, termination, none⟩ = ⟨now.taken kept s.shownLast, termination, none⟩) ∨
    ∃ v kept fault, s.shownLast = some v ∧ s.sink.emit now.kept v = (kept, some fault) ∧
      finish s ⟨now, termination, none⟩ = ⟨now.refusing kept v fault, .faulted, some fault⟩ := by
  cases mode : s.projection.mode with
  | eachPage =>
    have last := Setting.shownLast_eachPage mode
    have waits : s.projection.isDeferred = false := by simp [Projection.isDeferred, mode]
    exact Or.inl ⟨now.kept, by simp [last, Takes], by simp [finish, waits, last, Standing.taken]⟩
  | deferred =>
    have waits : s.projection.isDeferred = true := by simp [Projection.isDeferred, mode]
    rw [Setting.shownLast_deferred mode]
    rcases offered : offer s now (s.projection.apply none s.context) with ⟨later, _ | fault⟩
    · obtain ⟨kept, takes, rfl⟩ := offer_taken offered
      exact Or.inl ⟨kept, takes, by simp [finish, waits, offered]⟩
    · obtain ⟨v, kept, shown, verdict, rfl⟩ := offer_refused offered
      exact Or.inr ⟨v, kept, fault, shown, verdict, by simp [finish, waits, offered]⟩

theorem stop?_eq_none_iff {s : Setting Service Request Page Context Value Kept} {p : Progress} :
    stop? s p = none ↔
      s.callerPages = false ∧ p.hasMore = true ∧ ∀ cap, s.maxPages = some cap → p.pages < cap := by
  unfold stop?
  cases s.callerPages <;> cases p.hasMore <;> cases s.maxPages <;> simp

theorem stop?_eq_some {s : Setting Service Request Page Context Value Kept} {p : Progress}
    {termination : Termination} (stop : stop? s p = some termination) :
    s.callerPages = true ∧ termination = .userLimited ∨
      s.callerPages = false ∧ p.hasMore = false ∧ termination = .exhausted ∨
      s.callerPages = false ∧ p.hasMore = true ∧ termination = .pageLimit ∧
        ∃ cap, s.maxPages = some cap ∧ cap ≤ p.pages := by
  unfold stop? at stop
  split at stop
  · rename_i caller
    exact Or.inl ⟨caller, (Option.some.inj stop).symm⟩
  · rename_i caller
    split at stop
    · rename_i more
      exact Or.inr (Or.inl ⟨by simpa using caller, by simpa using more, (Option.some.inj stop).symm⟩)
    · rename_i more
      split at stop
      · rename_i cap limit
        split at stop
        · rename_i reached
          exact Or.inr (Or.inr ⟨by simpa using caller, by simpa using more,
            (Option.some.inj stop).symm, cap, limit, reached⟩)
        · simp at stop
      · simp at stop

end Walk

end Pager
