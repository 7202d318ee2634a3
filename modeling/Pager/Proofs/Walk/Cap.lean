import Pager.Proofs.Walk.Run

namespace Pager.Walk

variable {Service Request Page Context Value Kept : Type}

/-- The setting of a walk that is stopped by nothing but its end. -/
def uncapped (s : Setting Service Request Page Context Value Kept) :
    Setting Service Request Page Context Value Kept :=
  { s with maxPages := none }

/-- The setting of a walk that stops behind so many pages. -/
def capped (s : Setting Service Request Page Context Value Kept) (cap : Nat) :
    Setting Service Request Page Context Value Kept :=
  { s with maxPages := some cap }

variable {s : Setting Service Request Page Context Value Kept} {cap : Nat}

theorem stop?_capped_of_stop {p : Progress} {termination : Termination}
    (stop : stop? (uncapped s) p = some termination) :
    stop? (capped s cap) p = some termination := by
  rcases stop?_eq_some stop with ⟨caller, rfl⟩ | ⟨caller, ended, rfl⟩ | ⟨_, _, _, _, limit, _⟩
  · exact if_pos caller
  · have caller : s.callerPages = false := caller
    simp [stop?, capped, caller, ended]
  · cases limit

theorem stop?_capped_of_onward {p : Progress} (onward : stop? (uncapped s) p = none) :
    stop? (capped s cap) p = if cap ≤ p.pages then some .pageLimit else none := by
  obtain ⟨caller, more, _⟩ := stop?_eq_none_iff.mp onward
  have caller : s.callerPages = false := caller
  simp [stop?, capped, caller, more]

/-- The emission behind a loop that the cap has ended. -/
theorem finish_capReached (s : Setting Service Request Page Context Value Kept)
    (left : Standing Service Request Value Kept) :
    let f := finish s ⟨left, .pageLimit, none⟩
    f.outcome.pages = left.progress.pages ∧ f.outcome.resumeCursor = left.progress.cursor ∧
      (f.outcome.termination = .pageLimit ∨ s.projection.mode = .deferred ∧
        ∃ value kept fault, s.shownLast = some value ∧
          s.sink.emit left.kept value = (kept, some fault) ∧ f.outcome.termination = .faulted ∧
          f.outcome.fault = some fault) := by
  intro f
  rcases finish_cases s left .pageLimit with ⟨_, _, same⟩ | ⟨value, kept, fault, last, verdict, same⟩
  · exact ⟨congrArg (fun f => f.outcome.pages) same, congrArg (fun f => f.outcome.resumeCursor) same,
      Or.inl (congrArg (fun f => f.outcome.termination) same)⟩
  · have waits : s.projection.mode = .deferred := by
      cases mode : s.projection.mode with
      | eachPage => simp [Setting.shownLast_eachPage mode] at last
      | deferred => rfl
    refine ⟨congrArg (fun f => f.outcome.pages) same,
      congrArg (fun f => f.outcome.resumeCursor) same, Or.inr ⟨waits, value, kept, fault, last, verdict,
      congrArg (fun f => f.outcome.termination) same, congrArg (fun f => f.outcome.fault) same⟩⟩

variable [CursorRequest Request] [CursorPage Page]

/-- A walk that ends by itself ends under a cap as well. -/
theorem turn_capped_ended {now : Standing Service Request Value Kept}
    {f : Finished Service Request Value Kept} (ends : turn (uncapped s) now = .inl f) :
    turn (capped s cap) now = .inl f := by
  have step := turned (uncapped s) now
  rw [ends] at step
  apply Turned.eq_turn
  cases step with
  | failed fetched => exact .failed fetched
  | refused fetched shown verdict => exact .refused fetched shown verdict
  | stopped fetched takes stop => exact .stopped fetched takes (stop?_capped_of_stop stop)

theorem pages_of_onward {now later : Standing Service Request Value Kept}
    (onward : turn s now = .inr later) : later.progress.pages = now.progress.pages + 1 := by
  have step := turned s now
  rw [onward] at step
  cases step
  rfl

/-- A walk that would go on goes on below its cap. -/
theorem turn_capped_below {now later : Standing Service Request Value Kept}
    (onward : turn (uncapped s) now = .inr later) (below : later.progress.pages < cap) :
    turn (capped s cap) now = .inr later := by
  have step := turned (uncapped s) now
  rw [onward] at step
  apply Turned.eq_turn
  cases step with
  | passed fetched takes further =>
    exact .passed fetched takes ((stop?_capped_of_onward further).trans (if_neg (Nat.not_le.mpr below)))

/-- A walk that would go on stops at its cap, where it stands. -/
theorem turn_capped_reached {now later : Standing Service Request Value Kept}
    (onward : turn (uncapped s) now = .inr later) (reached : cap ≤ later.progress.pages) :
    turn (capped s cap) now = .inl ⟨later, .pageLimit, none⟩ := by
  have step := turned (uncapped s) now
  rw [onward] at step
  apply Turned.eq_turn
  cases step with
  | passed fetched takes further =>
    exact .stopped fetched takes ((stop?_capped_of_onward further).trans (if_pos reached))

theorem loop_more {now : Standing Service Request Value Kept} {turns more : Nat}
    {f : Finished Service Request Value Kept} (ends : loop s turns now = some f)
    (enough : turns ≤ more) : loop s more now = some f := by
  induction turns generalizing now more with
  | zero => simp [loop] at ends
  | succ turns ih =>
    obtain ⟨more, rfl⟩ := Nat.exists_eq_add_of_le' (Nat.le_trans (Nat.le_add_left 1 turns) enough)
    rw [loop] at ends ⊢
    cases step : turn s now with
    | inl finished => rwa [step] at ends
    | inr later =>
      rw [step] at ends
      exact ih ends (Nat.le_of_succ_le_succ enough)

theorem loop_unique {now : Standing Service Request Value Kept} {turns others : Nat}
    {f g : Finished Service Request Value Kept} (one : loop s turns now = some f)
    (other : loop s others now = some g) : f = g := by
  have long := loop_more one (Nat.le_max_left turns others)
  rw [loop_more other (Nat.le_max_right turns others)] at long
  exact (Option.some.inj long).symm

/-- A loop that ends by itself, within its cap or at it, is the loop under the cap. -/
theorem loop_capped_ended {turns : Nat} {now : Standing Service Request Value Kept}
    {f : Finished Service Request Value Kept} (ends : loop (uncapped s) turns now = some f)
    (within : now.progress.pages + turns ≤ max 1 cap) : loop (capped s cap) turns now = some f := by
  induction turns generalizing now with
  | zero => simp [loop] at ends
  | succ turns ih =>
    rw [loop] at ends ⊢
    cases step : turn (uncapped s) now with
    | inl finished =>
      rw [step] at ends
      rw [turn_capped_ended step]
      exact ends
    | inr later =>
      rw [step] at ends
      have counted := pages_of_onward step
      have positive : 0 < turns := by
        cases turns with
        | zero => simp [loop] at ends
        | succ turns => exact Nat.succ_pos turns
      rw [turn_capped_below step (by omega)]
      exact ih ends (by omega)

/-- A walk that goes on at its cap has left the loop there. -/
theorem loop_capped_reached {turns : Nat} {now later : Standing Service Request Value Kept}
    (onward : after (uncapped s) (turns + 1) now = .inr later)
    (reached : now.progress.pages + (turns + 1) = max 1 cap) :
    loop (capped s cap) (turns + 1) now = some ⟨later, .pageLimit, none⟩ := by
  induction turns generalizing now with
  | zero =>
    simp only [after] at onward
    cases step : turn (uncapped s) now with
    | inl finished => simp [step] at onward
    | inr next =>
      rw [step] at onward
      cases onward
      have counted := pages_of_onward step
      rw [loop, turn_capped_reached step (by omega)]
  | succ turns ih =>
    rw [after] at onward
    cases step : turn (uncapped s) now with
    | inl finished => simp [step] at onward
    | inr next =>
      rw [step] at onward
      have counted := pages_of_onward step
      rw [loop, turn_capped_below step (by omega)]
      exact ih onward (by omega)

/-- Each turn sends one request. -/
theorem requests_of_turn (s : Setting Service Request Page Context Value Kept)
    (now : Standing Service Request Value Kept) :
    (requests (standing (turn s now)).events).length = (requests now.events).length + 1 := by
  have step := turned s now
  generalize turn s now = next at step ⊢
  cases step with
  | failed => simp [standing, Standing.sent, requests_append]
  | refused => simp [standing, Standing.refused, requests_append]
  | stopped | passed => simp [standing, Standing.passed, requests_append, requests_of_taken]

/-- A loop that ends takes as many turns as it sends requests, and one at least. -/
theorem loop_within {turns : Nat} {now : Standing Service Request Value Kept}
    {f : Finished Service Request Value Kept} (ends : loop s turns now = some f) :
    ∃ taken, (requests f.standing.events).length = (requests now.events).length + taken ∧
      0 < taken ∧ taken ≤ turns ∧ loop s taken now = some f := by
  induction turns generalizing now with
  | zero => simp [loop] at ends
  | succ turns ih =>
    rw [loop] at ends
    have one := requests_of_turn s now
    cases step : turn s now with
    | inl finished =>
      rw [step] at ends one
      cases ends
      exact ⟨1, one, Nat.one_pos, by omega, by rw [loop, step]⟩
    | inr later =>
      rw [step] at ends one
      obtain ⟨taken, sent, _, few, again⟩ := ih ends
      refine ⟨taken + 1, ?_, Nat.succ_pos taken, by omega, by rw [loop, step]; exact again⟩
      rw [sent]
      simp only [standing] at one
      omega

/-- A walk that has not ended took every turn, with a request and a page in each. -/
theorem after_counted {turns : Nat} {now later : Standing Service Request Value Kept}
    (onward : after s turns now = .inr later) :
    later.progress.pages = now.progress.pages + turns ∧
      (requests later.events).length = (requests now.events).length + turns := by
  induction turns generalizing now with
  | zero =>
    cases onward
    exact ⟨rfl, rfl⟩
  | succ turns ih =>
    rw [after] at onward
    have one := requests_of_turn s now
    cases step : turn s now with
    | inl finished => simp [step] at onward
    | inr next =>
      rw [step] at onward one
      have counted := pages_of_onward step
      obtain ⟨pages, sent⟩ := ih onward
      simp only [standing] at one
      omega

theorem after_add {turns : Nat} {now later : Standing Service Request Value Kept}
    (onward : after s turns now = .inr later) (more : Nat) :
    after s (turns + more) now = after s more later := by
  induction turns generalizing now with
  | zero =>
    cases onward
    rw [Nat.zero_add]
  | succ turns ih =>
    rw [after] at onward
    rw [Nat.succ_add_eq_add_succ, Nat.add_succ, after]
    cases step : turn s now with
    | inl finished => simp [step] at onward
    | inr next =>
      rw [step] at onward
      exact ih onward

/-- A walk that goes on asks next with the cursor it stands at. -/
theorem after_next (s : Setting Service Request Page Context Value Kept) (more : Nat)
    (now : Standing Service Request Value Kept) :
    ∃ rest, (standing (after s (more + 1) now)).events = now.events ++ .fetched now.asked :: rest := by
  obtain ⟨events, logged, _, trace⟩ := after_trace s (more + 1) now
  cases events with
  | nil =>
    cases ended : (after s (more + 1) now).isLeft with
    | true =>
      obtain ⟨_, _, _, last, _⟩ := trace.ends ended
      cases last
    | false =>
      have taken := (trace.walking ended).1
      simp at taken
  | cons e rest =>
    cases trace.opening e rfl
    exact ⟨rest, logged⟩

/-- Where a walk ended, its loop did. -/
theorem loop_of_after {turns : Nat} {now : Standing Service Request Value Kept}
    {f : Finished Service Request Value Kept} (ends : after s turns now = .inl f) :
    ∃ left, loop s turns now = some left ∧ f = finish s left := by
  have finished := loop_finish s turns now
  rw [ends] at finished
  obtain ⟨left, found, same⟩ := Option.map_eq_some_iff.mp finished
  exact ⟨left, found, same.symm⟩

/-- Where a walk goes on, its loop has not ended. -/
theorem loop_of_onward {turns : Nat} {now later : Standing Service Request Value Kept}
    (onward : after s turns now = .inr later) : loop s turns now = none := by
  have finished := loop_finish s turns now
  rw [onward] at finished
  exact Option.map_eq_none_iff.mp finished

/-- A walk that left its loop at the cap, standing where the walk without the cap goes on. -/
structure CutShort (s : Setting Service Request Page Context Value Kept) (cap : Nat)
    (start left : Standing Service Request Value Kept) (f : Finished Service Request Value Kept) :
    Prop where
  stopped : loop (capped s cap) (max 1 cap) start = some ⟨left, .pageLimit, none⟩
  finished : f = finish s ⟨left, .pageLimit, none⟩
  fetches : (requests f.standing.events).length = max 1 cap
  pages : f.outcome.pages = max 1 cap
  /-- The cap is what ends it, unless the sink refuses the value that waited for the end. -/
  termination : f.outcome.termination = .pageLimit ∨ s.projection.mode = .deferred ∧
    ∃ value kept fault, s.shownLast = some value ∧ s.sink.emit left.kept value = (kept, some fault) ∧
      f.outcome.termination = .faulted ∧ f.outcome.fault = some fault
  requests : ∀ turns, max 1 cap ≤ turns →
    requests f.standing.events =
      (requests (standing (after (uncapped s) turns start)).events).take (max 1 cap)
  events : s.projection.mode = .eachPage → ∀ turns, max 1 cap ≤ turns →
    f.standing.events <+: (standing (after (uncapped s) turns start)).events
  /-- It tells the cursor of the request it was kept from. -/
  resumes : ∀ turns, max 1 cap < turns →
    (Walk.requests (standing (after (uncapped s) turns start)).events)[max 1 cap]? =
      some (CursorRequest.setCursor left.request f.outcome.resumeCursor)

theorem CutShort.of_onward {start left : Standing Service Request Value Kept}
    (fresh : start.progress.pages = 0) (unsent : start.events = [])
    (onward : after (uncapped s) (max 1 cap) start = .inr left) :
    CutShort s cap start left (finish s ⟨left, .pageLimit, none⟩) := by
  obtain ⟨counted, sent⟩ := after_counted onward
  rw [fresh, Nat.zero_add] at counted
  rw [unsent, requests_nil, List.length_nil, Nat.zero_add] at sent
  have asked := requests_finish s ⟨left, .pageLimit, none⟩
  obtain ⟨pages, cursor, termination⟩ := finish_capReached s left
  have further (turns : Nat) (enough : max 1 cap ≤ turns) :
      ∃ rest, (standing (after (uncapped s) turns start)).events = left.events ++ rest := by
    obtain ⟨more, rfl⟩ := Nat.exists_eq_add_of_le enough
    rw [after_add onward]
    obtain ⟨rest, logged, _, _⟩ := after_trace (uncapped s) more left
    exact ⟨rest, logged⟩
  refine ⟨?_, rfl, asked ▸ sent, pages.trans counted, termination, ?_, ?_, ?_⟩
  · obtain ⟨turns, limit⟩ : ∃ turns, max 1 cap = turns + 1 := ⟨max 1 cap - 1, by omega⟩
    rw [limit] at onward ⊢
    exact loop_capped_reached onward (by omega)
  · intro turns enough
    obtain ⟨rest, logged⟩ := further turns enough
    rw [asked, logged, requests_append, ← sent]
    exact List.take_left.symm
  · intro mode turns enough
    obtain ⟨rest, logged⟩ := further turns enough
    rw [finish_eachPage mode, logged]
    exact List.prefix_append _ _
  · intro turns beyond
    obtain ⟨more, rfl⟩ := Nat.exists_eq_add_of_lt beyond
    rw [Nat.add_assoc, after_add onward]
    obtain ⟨rest, logged⟩ := after_next (uncapped s) more left
    rw [logged, requests_append, List.getElem?_append_right (Nat.le_of_eq sent), sent, Nat.sub_self,
      cursor]
    rfl

/-- A cap only cuts a walk short. The capped walk ends, after the first fetch at the earliest and
after at most as many as the cap allows, or one; a walk that ends by itself within them is not changed
by the cap, and any other one is left at the cap. -/
theorem execute_capped (s : Setting Service Request Page Context Value Kept) (cap : Nat)
    (request : Request) (service : Service) (kept : Kept) :
    ∃ f, (∀ turns, max 1 cap ≤ turns →
        execute (capped s cap) turns request .automatic service kept = some f) ∧
      0 < (requests f.standing.events).length ∧
      (requests f.standing.events).length ≤ max 1 cap ∧
      (∀ turns g, execute (uncapped s) turns request .automatic service kept = some g →
        (requests g.standing.events).length ≤ max 1 cap → f = g) ∧
      ((∀ turns g, execute (uncapped s) turns request .automatic service kept = some g →
          max 1 cap < (requests g.standing.events).length) →
        ∃ left, CutShort { s with callerPages := false } cap
          ⟨request, service, kept, Progress.start none, []⟩ left f) := by
  let auto : Setting Service Request Page Context Value Kept := { s with callerPages := false }
  let start : Standing Service Request Value Kept :=
    ⟨request, service, kept, Progress.start none, []⟩
  have executed (turns : Nat) : execute (capped s cap) turns request .automatic service kept =
      (loop (capped auto cap) turns start).map (finish auto) := rfl
  have walked (turns : Nat) : execute (uncapped s) turns request .automatic service kept =
      (loop (uncapped auto) turns start).map (finish auto) := rfl
  cases reached : after (uncapped auto) (max 1 cap) start with
  | inl g =>
    obtain ⟨left, ends, same⟩ := loop_of_after reached
    obtain ⟨taken, sent, first, few, _⟩ := loop_within ends
    have sent : (requests left.standing.events).length = taken := by simpa [start] using sent
    have under := loop_capped_ended ends (Nat.le_of_eq (Nat.zero_add _))
    refine ⟨finish auto left, fun turns enough => ?_, ?_, ?_, ?_, ?_⟩
    · rw [executed, loop_more under enough]
      rfl
    · rw [requests_finish, sent]
      exact first
    · rw [requests_finish, sent]
      exact few
    · intro turns other run _
      rw [walked] at run
      obtain ⟨again, ended, rfl⟩ := Option.map_eq_some_iff.mp run
      rw [loop_unique ends ended]
    · intro long
      have short := long (max 1 cap) (finish auto left) (by rw [walked, ends]; rfl)
      rw [requests_finish] at short
      omega
  | inr left =>
    have cut := CutShort.of_onward (s := auto) rfl rfl reached
    refine ⟨finish auto ⟨left, .pageLimit, none⟩, fun turns enough => ?_, ?_, Nat.le_of_eq cut.fetches,
      ?_, fun _ => ⟨left, cut⟩⟩
    · rw [executed, loop_more cut.stopped enough]
      rfl
    · rw [cut.fetches]
      omega
    · intro turns g run short
      rw [walked] at run
      obtain ⟨ended, found, rfl⟩ := Option.map_eq_some_iff.mp run
      rw [requests_finish] at short
      obtain ⟨taken, sent, _, _, again⟩ := loop_within found
      have sent : (requests ended.standing.events).length = taken := by simpa [start] using sent
      have within := loop_more again (sent ▸ short)
      rw [loop_of_onward reached] at within
      cases within

end Pager.Walk
