import Pager.Proofs.Walk.Resume

namespace Pager.Walk

variable {Service Request Page Context Value Kept : Type}
variable [CursorRequest Request] [CursorPage Page]
variable {s : Setting Service Request Page Context Value Kept} {pageAt : Option String → Page}

/-- What a turn that goes on adds to the values taken. -/
theorem accepted_passed (now : Standing Service Request Value Kept) (service : Service) (kept : Kept)
    (page : Page) (value : Option Value) :
    accepted (now.passed service kept page value).events = accepted now.events ++ value.toList := by
  cases value <;> simp [Standing.passed, accepted]

/-- A walk that faults has taken the values of the cursors behind it, and what is left of the chain
starts at the cursor it tells. -/
theorem faulted_chain (mode : s.projection.mode = .eachPage) {turns : Nat} {cursor : Option String}
    {cursors : List (Option String)} (chain : Chain pageAt cursor cursors)
    (filled : noneIfEmpty cursor = cursor) {now : Standing Service Request Value Kept}
    (stands : now.progress.cursor = cursor)
    (keyed : s.operation.KeyedOrFailing pageAt now.service)
    {f : Finished Service Request Value Kept} (ends : loop s turns now = some f)
    (faulted : f.fault.isSome) :
    ∃ done rest, cursors = done ++ rest ∧ Chain pageAt f.outcome.resumeCursor rest ∧
      noneIfEmpty f.outcome.resumeCursor = f.outcome.resumeCursor ∧
      accepted f.standing.events = accepted now.events ++ done.filterMap (s.valueAt pageAt) := by
  induction turns generalizing cursor cursors now with
  | zero => simp [loop] at ends
  | succ turns ih =>
    have step := turned s now
    unfold loop at ends
    generalize turn s now = next at step ends
    cases step with
    | failed fetched =>
      cases ends
      subst stands
      exact ⟨[], cursors, rfl, chain, filled, by simp [Standing.sent, accepted]⟩
    | refused fetched shown verdict =>
      cases ends
      subst stands
      exact ⟨[], cursors, rfl, chain, filled, by simp [Standing.refused, accepted]⟩
    | stopped fetched takes stop =>
      cases ends
      simp at faulted
    | @passed service page kept fetched takes onward =>
      obtain ⟨following, named⟩ := named_of_onward onward
      obtain ⟨same, keyed⟩ := keyed.fetch now.request now.progress.cursor fetched
      rw [stands] at same
      subst same
      cases chain with
      | last final => simp [final] at named
      | @next _ further rest again chain =>
        have filled : noneIfEmpty (some further) = some further := by rw [← again, noneIfEmpty_idem]
        have stands' : (now.passed service kept (pageAt cursor)
            (s.shown (pageAt cursor))).progress.cursor = some further := again
        obtain ⟨done, rest, split, left, resumes, taken⟩ := ih chain filled stands' keyed ends
        refine ⟨cursor :: done, rest, by rw [split, List.cons_append], left, resumes, ?_⟩
        rw [taken, accepted_passed, List.append_assoc, Setting.shown_pageAt mode]
        cases shown : s.valueAt pageAt cursor <;> simp [shown]

/-- Whatever a run of invocations by hand is given, it takes at the cursors it visits. -/
theorem OnePage.flatMap_accepted {request : Request} {cursors : List (Option String)}
    {parts : List (Finished Service Request Value Kept)}
    (all : List.Forall₂ (OnePage s pageAt request) cursors parts) :
    (parts.flatMap fun part => accepted part.standing.events) =
      cursors.filterMap (s.valueAt pageAt) := by
  induction all with
  | nil => rfl
  | @cons cursor part cursors parts one _ ih =>
    rw [List.flatMap_cons, one.events, accepted_visits, ih, ← List.filterMap_append]
    rfl

/-- A walk over a service with a page for each cursor faults, because a fetch failed or the sink
refused a value. The values it took, and those taken by invocations of one page each from the cursor
it tells, are the values of an automatic walk that nothing interrupts. -/
theorem byHand_after_fault (mode : s.projection.mode = .eachPage) (request : Request)
    {cursors : List (Option String)} (chain : Chain pageAt none cursors)
    {Failing Refusing : Type} {t : Setting Failing Request Page Context Value Refusing}
    (projection : t.projection = s.projection) (context : t.context = s.context)
    {turns : Nat} {failing : Failing} {refusing : Refusing}
    (keyedOrFailing : t.operation.KeyedOrFailing pageAt failing)
    {f : Finished Failing Request Value Refusing}
    (run : execute t turns request .automatic failing refusing = some f)
    (faulted : f.outcome.isFaulted = true)
    {service later : Service} {kept after : Kept}
    (keyed : s.operation.Keyed pageAt service) (accepts : s.sink.Accepts kept)
    (keyedLater : s.operation.Keyed pageAt later) (acceptsAfter : s.sink.Accepts after) :
    ∃ whole parts,
      (∀ turns, cursors.length ≤ turns →
        execute { s with maxPages := none } turns request .automatic service kept = some whole) ∧
      (∀ rounds turns, cursors.length ≤ rounds → 0 < turns →
        byHand s turns request rounds f.outcome.resumeCursor later after = some parts) ∧
      accepted f.standing.events ++ parts.flatMap (fun part => accepted part.standing.events) =
        accepted whole.standing.events := by
  have sameMode : t.projection.mode = .eachPage := projection ▸ mode
  have sameValues : t.valueAt pageAt = s.valueAt pageAt := by
    unfold Setting.valueAt
    rw [projection, context]
  obtain ⟨whole, events, _, automatic⟩ := execute_automatic mode request chain keyed accepts
  rw [execute_eachPage sameMode] at run
  obtain ⟨done, rest, split, left, filled, taken⟩ :=
    faulted_chain (s := { t with callerPages := Control.automatic.callerPages }) sameMode chain rfl rfl
      keyedOrFailing run faulted
  obtain ⟨parts, invoked, all⟩ := byHand_chain mode request left filled keyedLater acceptsAfter
  refine ⟨whole, parts, automatic, fun rounds turns enough => invoked rounds turns ?_, ?_⟩
  · rw [split, List.length_append] at enough
    omega
  · calc
      _ = done.filterMap (s.valueAt pageAt) ++ rest.filterMap (s.valueAt pageAt) := by
        rw [taken, OnePage.flatMap_accepted all, ← sameValues]
        rfl
      _ = cursors.filterMap (s.valueAt pageAt) := by rw [split, List.filterMap_append]
      _ = _ := by rw [events, accepted_visits]

/-- The walk over the three pages when its second call fails. -/
def throttledOnce : Setting Nat ListRequest ListPage Unit (List Json) (List (List Json)) :=
  { overThreePages with
    operation := ⟨"three pages", fun calls request => (calls + 1,
      if calls = 1 then .error (.rateLimited 1) else .ok (threePages request.cursor)), id⟩ }

theorem keyedOrFailing_throttledOnce (calls : Nat) :
    throttledOnce.operation.KeyedOrFailing threePages calls := by
  refine Operation.keyedOrFailing_of_forall (fun calls request cursor => ?_) calls
  by_cases second : calls = 1
  · exact Or.inr ⟨.rateLimited 1, if_pos second⟩
  · exact Or.inl (if_neg second)

theorem throttledOnce_run :
    ∃ f, execute throttledOnce 3 ⟨[], [], none, "after", .query, none⟩ .automatic 0 [] = some f ∧
      f.outcome.isFaulted = true ∧ f.outcome.resumeCursor = some "t1" ∧
      accepted f.standing.events = [[.text "a", .text "b"]] :=
  ⟨_, rfl, rfl, rfl, rfl⟩

/-- The second of three fetches fails; by hand the walk goes on at its cursor. -/
theorem byHand_after_throttled :
    ∃ f, execute throttledOnce 3 ⟨[], [], none, "after", .query, none⟩ .automatic 0 [] = some f ∧
      f.outcome.isFaulted = true ∧ accepted f.standing.events = [[.text "a", .text "b"]] ∧
      ∃ whole parts,
        (∀ turns, 3 ≤ turns → execute { overThreePages with maxPages := none } turns
          ⟨[], [], none, "after", .query, none⟩ .automatic 0 [] = some whole) ∧
        (∀ rounds turns, 3 ≤ rounds → 0 < turns → byHand overThreePages turns
          ⟨[], [], none, "after", .query, none⟩ rounds (some "t1") 2 [] = some parts) ∧
        accepted f.standing.events ++ parts.flatMap (fun part => accepted part.standing.events) =
          accepted whole.standing.events := by
  have accepts : overThreePages.sink.Accepts [] := Sink.accepts_of_forall (fun _ _ => rfl) _
  obtain ⟨f, run, faulted, resumes, taken⟩ := throttledOnce_run
  have continued := byHand_after_fault (s := overThreePages) (t := throttledOnce) rfl
    ⟨[], [], none, "after", .query, none⟩ chain_threePages rfl rfl (keyedOrFailing_throttledOnce 0)
    run faulted (keyed_threePages 0) accepts (keyed_threePages 2) accepts
  rw [resumes] at continued
  exact ⟨f, run, faulted, taken, continued⟩

end Pager.Walk
