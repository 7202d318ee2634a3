import Pager.Proofs.Walk.Offering

namespace Pager.Walk

variable {Service Request Page Context Value Kept : Type}

/-- Where a turn leads that has come behind its page. -/
def behind (s : Setting Service Request Page Context Value Kept)
    (now : Standing Service Request Value Kept) :
    Finished Service Request Value Kept ⊕ Standing Service Request Value Kept :=
  match stop? s now.progress with
  | some termination => .inl ⟨now, termination, none⟩
  | none => .inr now

theorem behind_of_stop {s : Setting Service Request Page Context Value Kept}
    {now : Standing Service Request Value Kept} {termination : Termination}
    (stop : stop? s now.progress = some termination) :
    behind s now = .inl ⟨now, termination, none⟩ := by
  simp only [behind, stop]

theorem behind_of_onward {s : Setting Service Request Page Context Value Kept}
    {now : Standing Service Request Value Kept} (onward : stop? s now.progress = none) :
    behind s now = .inr now := by
  simp only [behind, onward]

variable [CursorRequest Request] [CursorPage Page]

/-- The four ends of a turn: the fetch failed, the sink refused, the walk stops behind the page, or
it goes on to the next one. -/
inductive Turned (s : Setting Service Request Page Context Value Kept)
    (now : Standing Service Request Value Kept) :
    Finished Service Request Value Kept ⊕ Standing Service Request Value Kept → Prop
  | failed {service fault} :
      s.operation.fetch now.service now.asked = (service, .error fault) →
      Turned s now (.inl ⟨now.sent service, .faulted, some (s.operation.normalize fault)⟩)
  | refused {service page kept value fault} :
      s.operation.fetch now.service now.asked = (service, .ok page) → s.shown page = some value →
      s.sink.emit now.kept value = (kept, some fault) →
      Turned s now (.inl ⟨now.refused service kept value fault, .faulted, some fault⟩)
  | stopped {service page kept termination} :
      s.operation.fetch now.service now.asked = (service, .ok page) →
      Takes s now.kept (s.shown page).toList kept →
      stop? s (now.passed service kept page (s.shown page)).progress = some termination →
      Turned s now (.inl ⟨now.passed service kept page (s.shown page), termination, none⟩)
  | passed {service page kept} :
      s.operation.fetch now.service now.asked = (service, .ok page) →
      Takes s now.kept (s.shown page).toList kept →
      stop? s (now.passed service kept page (s.shown page)).progress = none →
      Turned s now (.inr (now.passed service kept page (s.shown page)))

theorem turned (s : Setting Service Request Page Context Value Kept)
    (now : Standing Service Request Value Kept) : Turned s now (turn s now) := by
  rcases fetched : s.operation.fetch now.service now.asked with ⟨service, fault | page⟩
  · have run : turn s now = .inl ⟨now.sent service, .faulted, some (s.operation.normalize fault)⟩ := by
      unfold Standing.asked at fetched
      simp only [turn, fetched]
      rfl
    rw [run]
    exact .failed fetched
  · rcases offered : offer s (now.counted service) (s.shown page) with ⟨taken, _ | fault⟩
    · have run : turn s now = behind s (taken.adopt page) := by
        unfold Standing.counted Setting.shown at offered
        unfold Standing.asked at fetched offered
        simp only [turn, fetched, offered]
        rfl
      obtain ⟨kept, takes, same⟩ := offer_taken offered
      have next : taken.adopt page = now.passed service kept page (s.shown page) := by
        rw [same]
        simp [Standing.adopt, Standing.taken, Standing.passed, Standing.counted, Progress.advance,
          Progress.recordPage]
      rw [run, next]
      cases stop : stop? s (now.passed service kept page (s.shown page)).progress with
      | some termination =>
        rw [behind_of_stop stop]
        exact .stopped fetched takes stop
      | none =>
        rw [behind_of_onward stop]
        exact .passed fetched takes stop
    · have run : turn s now = .inl ⟨taken, .faulted, some fault⟩ := by
        unfold Standing.counted Setting.shown at offered
        unfold Standing.asked at fetched offered
        simp only [turn, fetched, offered]
      obtain ⟨value, kept, shown, verdict, same⟩ := offer_refused offered
      have next : taken = now.refused service kept value fault := by
        rw [same]
        simp [Standing.refusing, Standing.refused, Standing.counted]
      rw [run, next]
      exact .refused fetched shown verdict

/-- A page that came and whose value was taken leads behind it. -/
theorem turn_of_page {s : Setting Service Request Page Context Value Kept}
    {now : Standing Service Request Value Kept} {service : Service} {page : Page} {kept : Kept}
    (fetched : s.operation.fetch now.service now.asked = (service, .ok page))
    (takes : Takes s now.kept (s.shown page).toList kept) :
    turn s now = behind s (now.passed service kept page (s.shown page)) := by
  have step := turned s now
  generalize turn s now = result at step ⊢
  cases step with
  | failed failed =>
    rw [fetched] at failed
    cases failed
  | refused again shown verdict =>
    rw [fetched] at again
    cases again
    simp [Takes, shown, verdict] at takes
  | stopped again taken stop =>
    rw [fetched] at again
    cases again
    cases takes.symm.trans taken
    rw [behind_of_stop stop]
  | passed again taken onward =>
    rw [fetched] at again
    cases again
    cases takes.symm.trans taken
    rw [behind_of_onward onward]

/-- A turn comes to nothing but its end. -/
theorem Turned.eq_turn {s : Setting Service Request Page Context Value Kept}
    {now : Standing Service Request Value Kept}
    {result : Finished Service Request Value Kept ⊕ Standing Service Request Value Kept}
    (step : Turned s now result) : turn s now = result := by
  cases step with
  | failed fetched =>
    unfold Standing.asked at fetched
    simp only [turn, fetched]
    rfl
  | @refused service page kept value fault fetched shown verdict =>
    have offered : offer s (now.counted service) (s.shown page) =
        (now.refused service kept value fault, some fault) := by
      simp [shown, offer, Standing.counted, verdict, Standing.refused]
    unfold Standing.counted Setting.shown at offered
    unfold Standing.asked at fetched offered
    simp only [turn, fetched, offered]
  | stopped fetched takes stop => rw [turn_of_page fetched takes, behind_of_stop stop]
  | passed fetched takes onward => rw [turn_of_page fetched takes, behind_of_onward onward]

/-- A page behind which a walk goes on names a further one. -/
theorem named_of_onward {s : Setting Service Request Page Context Value Kept}
    {now : Standing Service Request Value Kept} {page : Page} {later : Service}
    {after : Kept}
    {value : Option Value} (onward : stop? s (now.passed later after page value).progress = none) :
    ∃ cursor, noneIfEmpty (CursorPage.nextCursor page) = some cursor := by
  have more := (stop?_eq_none_iff.mp onward).2.1
  rw [Standing.hasMore_passed] at more
  exact Option.isSome_iff_exists.mp more

/-- A walk after at most so many turns: finished, or before its next turn. -/
def after (s : Setting Service Request Page Context Value Kept) :
    Nat → Standing Service Request Value Kept →
      Finished Service Request Value Kept ⊕ Standing Service Request Value Kept
  | 0, now => .inr now
  | turns + 1, now =>
    match turn s now with
    | .inl finished => .inl (finish s finished)
    | .inr later => after s turns later

theorem loop_finish (s : Setting Service Request Page Context Value Kept) (turns : Nat)
    (now : Standing Service Request Value Kept) :
    (loop s turns now).map (finish s) = (after s turns now).getLeft? := by
  induction turns generalizing now with
  | zero => rfl
  | succ turns ih =>
    cases step : turn s now with
    | inl finished => simp only [loop, after, step, Option.map_some, Sum.getLeft?_inl]
    | inr later => simp only [loop, after, step, ih]

theorem run_eq_after (s : Setting Service Request Page Context Value Kept) (turns : Nat)
    (request : Request) (initialCursor : Option String) (service : Service) (kept : Kept) :
    run s turns request initialCursor service kept =
      (after s turns ⟨request, service, kept, Progress.start initialCursor, []⟩).getLeft? :=
  loop_finish s turns _

end Pager.Walk
