import Pager.Proofs.Walk.Trace
import Pager.Proofs.Walk.Turn

namespace Pager.Walk

variable {Service Request Page Context Value Kept : Type}
variable [CursorRequest Request] [CursorPage Page]
variable {s : Setting Service Request Page Context Value Kept} {first : Request} {kept : Kept}
variable {service later : Service} {before turns : Nat}

/-- The standing of a walk, finished or not. -/
def standing : Finished Service Request Value Kept ⊕ Standing Service Request Value Kept →
    Standing Service Request Value Kept
  | .inl finished => finished.standing
  | .inr now => now

/-- What happens in several turns: a trace, and a log which replayed leads to where the walk stands. -/
theorem after_trace (s : Setting Service Request Page Context Value Kept) (turns : Nat)
    (now : Standing Service Request Value Kept) :
    ∃ events, (standing (after s turns now)).events = now.events ++ events ∧
      Replayed s now.service now.kept events (standing (after s turns now)) ∧
      Trace s now.asked now.service now.kept now.progress.pages turns (after s turns now).isLeft
        events := by
  induction turns generalizing now with
  | zero => exact ⟨[], (List.append_nil _).symm, ⟨rfl, rfl⟩, .unstarted⟩
  | succ turns ih =>
    have step := turned s now
    unfold after
    generalize turn s now = next at step
    cases step with
    | failed fetched =>
      simp only [finish_faulted]
      exact ⟨_, rfl, ⟨congrArg Prod.fst fetched, rfl⟩, .failed fetched⟩
    | refused fetched shown verdict =>
      simp only [finish_faulted]
      exact ⟨_, rfl, ⟨congrArg Prod.fst fetched, congrArg Prod.fst verdict⟩,
        .refused fetched shown verdict⟩
    | @stopped service page kept termination fetched takes stop =>
      have ends := fun e => ending_of_stop e stop
      rcases finish_cases s (now.passed service kept page (s.shown page)) termination with
        ⟨final, takesLast, same⟩ | ⟨value, final, fault, last, verdict, same⟩
      · simp only [same]
        refine ⟨_, ?_, .passed fetched takes (.taken takesLast rfl rfl),
          .stopped_taken fetched takes takesLast ends⟩
        simp [standing, Standing.taken, Standing.passed]
      · simp only [same]
        refine ⟨_, ?_, .passed fetched takes (.refused verdict rfl rfl),
          .stopped_refused fetched takes last verdict ends⟩
        simp [standing, Standing.refusing, Standing.passed]
    | @passed service page kept fetched takes onward =>
      obtain ⟨cursor, named⟩ := named_of_onward onward
      obtain ⟨rest, more, replayed, trace⟩ := ih (now.passed service kept page (s.shown page))
      have asked : (now.passed service kept page (s.shown page)).asked =
          CursorRequest.setCursor now.asked (some cursor) := by
        simp only [Standing.asked, Standing.passed, named]
      rw [asked] at trace
      have limits := stop?_eq_none_iff.mp onward
      refine ⟨_, ?_, .passed fetched takes replayed,
        .passed fetched takes named ⟨limits.1, limits.2.2⟩ trace⟩
      rw [more]
      simp only [Standing.passed, List.append_assoc, List.cons_append]

/-- What happens in an invocation: a trace, and a log which leads to where it ended. -/
theorem trace_of_execute {request : Request} {control : Control}
    {f : Finished Service Request Value Kept}
    (run : execute s turns request control service kept = some f) :
    Replayed s service kept f.standing.events f.standing ∧
      Trace { s with callerPages := control.callerPages }
        (CursorRequest.setCursor request (noneIfEmpty control.initialCursor)) service kept 0 turns true
        f.standing.events := by
  let caller := { s with callerPages := control.callerPages }
  let start : Standing Service Request Value Kept :=
    ⟨request, service, kept, Progress.start control.initialCursor, []⟩
  obtain ⟨logged, same, replayed, trace⟩ := after_trace caller turns start
  have ended : (after caller turns start).getLeft? = some f := (run_eq_after caller ..).symm.trans run
  have reached : after caller turns start = .inl f := Sum.getLeft?_eq_some_iff.mp ended
  rw [reached] at same replayed trace
  have whole : f.standing.events = logged := same
  rw [← whole] at replayed trace
  exact ⟨⟨replayed.served, replayed.offered⟩, trace⟩

theorem Trace.offers_eachPage {ended : Bool} {events : List (Event Request Value)}
    (trace : Trace s first service kept before turns ended events)
    (mode : s.projection.mode = .eachPage) :
    offers events = (pages (answers s.operation service events)).filterMap fun page =>
      s.projection.apply (some page) s.context := by
  have last := Setting.shownLast_eachPage mode
  have shown : s.shown = fun page => s.projection.apply (some page) s.context :=
    funext (Setting.shown_eachPage mode)
  have order := trace.order
  simp only [last, Option.toList_none, List.map_nil, ite_self, List.append_nil] at order
  calc offers events = (events.map Event.deed).filterMap Sum.getRight? := by
        simp only [offers, List.filterMap_map, Function.comp_def]
    _ = (pages (answers s.operation service events)).filterMap s.shown := by
        rw [order, offered_of_deeds s (answers_length _ _ _)]
    _ = _ := by rw [shown]

end Pager.Walk
