import Pager.Proofs.Walk.Log
import Pager.Proofs.Walk.Turn

namespace Pager

variable {Service Request Page Context Value Kept : Type}

/-- Whether services that are alike answer alike, and are so again behind every answer. -/
def Operation.Keeps (operation : Operation Service Request Page)
    (alike : Service → Service → Prop) : Prop :=
  ∀ {one other}, alike one other → ∀ request,
    (operation.fetch one request).2 = (operation.fetch other request).2 ∧
      alike (operation.fetch one request).1 (operation.fetch other request).1

/-- The same standing over another service. -/
def Standing.over (now : Standing Service Request Value Kept) (service : Service) :
    Standing Service Request Value Kept :=
  { now with service }

namespace Walk

/-- The same end of a walk over another service. -/
def Finished.over (f : Finished Service Request Value Kept) (service : Service) :
    Finished Service Request Value Kept :=
  { f with standing := f.standing.over service }

/-- Ends of walks that differ in nothing but their services, which are alike. -/
def Finished.Like (alike : Service → Service → Prop)
    (f g : Finished Service Request Value Kept) : Prop :=
  ∃ service, alike f.standing.service service ∧ g = f.over service

variable (s : Setting Service Request Page Context Value Kept)

theorem offer_over (now : Standing Service Request Value Kept) (service : Service)
    (value : Option Value) :
    offer s (now.over service) value = ((offer s now value).1.over service, (offer s now value).2) := by
  cases value with
  | none => rfl
  | some v =>
    rcases said : s.sink.emit now.kept v with ⟨kept, _ | fault⟩ <;>
      simp only [offer, Standing.over, said]

/-- What is offered behind the loop does not hang on the service. -/
theorem finish_over (f : Finished Service Request Value Kept) (service : Service) :
    finish s (f.over service) = (finish s f).over service := by
  obtain ⟨now, termination, fault⟩ := f
  cases fault with
  | some fault => simp only [Finished.over, finish_faulted]
  | none =>
    cases mode : s.projection.mode with
    | eachPage => rw [finish_eachPage mode, finish_eachPage mode]
    | deferred =>
      have waits : s.projection.isDeferred = true := by simp [Projection.isDeferred, mode]
      simp only [finish, Finished.over, waits, Option.isNone_none, Bool.and_self, if_true, offer_over]
      rcases offer s now (s.projection.apply none s.context) with ⟨later, _ | fault⟩ <;> rfl

theorem service_finish (f : Finished Service Request Value Kept) :
    (finish s f).standing.service = f.standing.service := by
  have same := congrArg (fun f => f.standing.service) (finish_over s f f.standing.service)
  exact same

variable [CursorRequest Request] [CursorPage Page]
variable {s} {alike : Service → Service → Prop}

/-- Turns from standings over alike services come to the same, over alike services. -/
theorem turn_like (keeps : s.operation.Keeps alike) {now : Standing Service Request Value Kept}
    {service : Service} (like : alike now.service service) :
    (∃ f later, turn s now = .inl f ∧ alike f.standing.service later ∧
      turn s (now.over service) = .inl (f.over later)) ∨
    ∃ next later, turn s now = .inr next ∧ alike next.service later ∧
      turn s (now.over service) = .inr (next.over later) := by
  obtain ⟨same, again⟩ := keeps like now.asked
  rcases other : s.operation.fetch service now.asked with ⟨later, answer⟩
  rw [other] at same again
  subst same
  have step := turned s now
  generalize turn s now = result at step ⊢
  cases step with
  | @failed _ fault first =>
    rw [first] at again other
    have ended : Turned s (now.over service) (.inl ⟨(now.over service).sent later, .faulted, _⟩) :=
      .failed other
    exact .inl ⟨_, later, rfl, again, ended.eq_turn⟩
  | @refused _ page kept value fault first shown verdict =>
    rw [first] at again other
    have ended : Turned s (now.over service)
        (.inl ⟨(now.over service).refused later kept value fault, .faulted, some fault⟩) :=
      .refused other shown verdict
    exact .inl ⟨_, later, rfl, again, ended.eq_turn⟩
  | @stopped _ page kept termination first takes stop =>
    rw [first] at again other
    have ended : Turned s (now.over service)
        (.inl ⟨(now.over service).passed later kept page (s.shown page), termination, none⟩) :=
      .stopped other takes stop
    exact .inl ⟨_, later, rfl, again, ended.eq_turn⟩
  | @passed _ page kept first takes onward =>
    rw [first] at again other
    have further : Turned s (now.over service)
        (.inr ((now.over service).passed later kept page (s.shown page))) :=
      .passed other takes onward
    exact .inr ⟨_, later, rfl, again, further.eq_turn⟩

theorem loop_like (keeps : s.operation.Keeps alike) (turns : Nat)
    {now : Standing Service Request Value Kept} {service : Service}
    (like : alike now.service service) :
    Option.Rel (Finished.Like alike) (loop s turns now) (loop s turns (now.over service)) := by
  induction turns generalizing now service with
  | zero => exact .none
  | succ turns ih =>
    simp only [loop]
    rcases turn_like keeps like with ⟨f, later, one, again, other⟩ | ⟨next, later, one, again, other⟩
    · simp only [one, other]
      exact .some ⟨later, again, rfl⟩
    · simp only [one, other]
      exact ih again

/-- Invocations over alike services come to the same. -/
theorem execute_like (keeps : s.operation.Keeps alike) (turns : Nat) (request : Request)
    (control : Control) {one other : Service} (like : alike one other) (kept : Kept) :
    Option.Rel (Finished.Like alike) (execute s turns request control one kept)
      (execute s turns request control other kept) := by
  let caller : Setting Service Request Page Context Value Kept :=
    { s with callerPages := control.callerPages }
  let start : Standing Service Request Value Kept :=
    ⟨request, one, kept, Progress.start control.initialCursor, []⟩
  have walked (service : Service) : execute s turns request control service kept =
      (loop caller turns (start.over service)).map (finish caller) := rfl
  have begins : alike (start.over one).service other := like
  have loops : Option.Rel (Finished.Like alike) (loop caller turns (start.over one))
      (loop caller turns (start.over other)) := loop_like (s := caller) keeps turns begins
  rw [walked one, walked other]
  generalize loop caller turns (start.over one) = f at loops ⊢
  generalize loop caller turns (start.over other) = g at loops ⊢
  cases loops with
  | none => exact .none
  | some both =>
    obtain ⟨service, again, rfl⟩ := both
    refine .some ⟨service, ?_, finish_over caller _ service⟩
    rwa [service_finish]

end Walk

end Pager
