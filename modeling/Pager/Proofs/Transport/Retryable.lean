import Pager.Proofs.Fault
import Pager.Proofs.Transport.Attempts

namespace Pager.Transport

variable {State : Type} {peer : Peer State} {s : Settings} {timeout : Delay} {attempt : Nat}
variable {reply : Reply} {c : Call} {service : State} {message : Message} {fault : Fault}
variable {x : Exchange State}

/-- The statuses worth another attempt are those of retryable faults. -/
theorem isRetryableStatus_eq (status : Nat) :
    Fault.isRetryableStatus status = (status == 429 || isPassing status) := by
  simp only [Fault.isRetryableStatus, isPassing, Bool.or_assoc]

/-- What is told of an outcome is retryable if a further attempt may mend it, and if it is no
answer. -/
theorem ReplyResult.isRetryable_iff (told : ReplyResult s timeout attempt reply (.error fault)) :
    fault.isRetryable = true ↔
      reply.isMendable = true ∨ ∃ links connecting, reply = .failure links connecting := by
  cases told with
  | @limited r status =>
    have mendable : (Reply.response r).isMendable = true := by simp [Reply.isMendable, status]
    exact iff_of_true rfl (.inl mendable)
  | @failed r status other =>
    rw [Fault.isRetryable, isRetryableStatus_eq, Reply.isMendable]
    refine ⟨.inl, fun mendable => mendable.resolve_right ?_⟩
    rintro ⟨links, connecting, same⟩
    cases same
  | silent => exact iff_of_true rfl (.inl rfl)
  | @lost links connecting => exact iff_of_true rfl (.inr ⟨links, connecting, rfl⟩)

/-- A call that ends before its retries are used up, although it is told as a fault of the
transport: it cannot be made into a message, or the first outcome that is final is no answer. -/
inductive Abandoned (peer : Peer State) (s : Settings) (c : Call) (service : State) : Prop
  | unmade {fault : Fault} (unmade : s.message c = .error fault)
  | lost {message : Message} {i : Nat} {links : List String} {connecting : Bool}
      (made : s.message c = .ok message) (first : FirstFinal (peer.outcome message service) i)
      (failure : peer.outcome message service i = .failure links connecting) (left : i < s.maxRetries)

/-- Nothing is sent of a call without a message, and the fault that is told is one of the transport. -/
theorem retryable_unmade (unmade : s.message c = .error fault) : fault.isRetryable = true := by
  rw [Settings.message_error unmade]
  rfl

/-- The last outcome of an exchange is the first final one, if no further attempt may mend it. -/
theorem Ended.firstFinal {retries : Nat}
    (ended : Ended peer s timeout message retries attempt service x)
    (final : (peer.outcome message service x.waits.length).isMendable = false) :
    FirstFinal (peer.outcome message service) x.waits.length :=
  ⟨final, ended.outcomes.1⟩

theorem sent_of_retryable (made : s.message c = .ok message)
    (ended : Ended peer s timeout message s.maxRetries 0 service x) (failed : x.result = .error fault)
    (retryable : fault.isRetryable = true) (kept : ¬ Abandoned peer s c service) :
    x.sent = s.maxRetries + 1 := by
  obtain ⟨_, used, told⟩ := ended.outcomes
  rw [failed] at told
  rw [ended.waited]
  cases mendable : (peer.outcome message service x.waits.length).isMendable with
  | true => rw [used mendable]
  | false =>
    obtain ⟨links, connecting, failure⟩ :=
      (told.isRetryable_iff.mp retryable).resolve_left (Bool.eq_false_iff.mp mendable)
    have last := ended.within
    have reached : ¬ x.waits.length < s.maxRetries := fun left =>
      kept (.lost made (ended.firstFinal mendable) failure left)
    omega

/-- A call that fails with a retryable fault has used up its retries exactly unless it was
abandoned; told before that, only faults of the transport are retryable. A call that was sent is
told as retryable exactly if a further attempt may mend its last outcome, or if this is no answer.
-/
theorem call_retryable (failed : (call peer s c service).result = .error fault) :
    ((fault.isRetryable = true → (call peer s c service).sent = s.maxRetries + 1) ↔
      ¬ Abandoned peer s c service) ∧
    ((call peer s c service).sent < s.maxRetries + 1 → (∀ links, fault ≠ .transport links) →
      fault.isRetryable = false) ∧
    ∀ message, s.message c = .ok message →
      (fault.isRetryable = true ↔
        (peer.outcome message service (call peer s c service).waits.length).isMendable = true ∨
          ∃ links connecting, peer.outcome message service (call peer s c service).waits.length =
            .failure links connecting) := by
  have called := call_called peer s c service
  generalize call peer s c service = x at failed called ⊢
  rcases called with ⟨cause, unmade, rfl⟩ | ⟨message, made, ended⟩
  · cases failed
    refine ⟨?_, fun _ other => ?_, fun message made => ?_⟩
    · refine iff_of_false (fun all => ?_) (fun kept => kept (.unmade unmade))
      exact absurd (all (retryable_unmade unmade)) (Nat.succ_ne_zero _).symm
    · exact absurd (Settings.message_error unmade) (other _)
    · cases unmade.symm.trans made
  · obtain ⟨_, used, told⟩ := ended.outcomes
    rw [failed] at told
    refine ⟨⟨fun all => ?_, fun kept retryable => sent_of_retryable made ended failed retryable kept⟩,
      fun early other => ?_, fun message' made' => ?_⟩
    · intro abandoned
      cases abandoned with
      | unmade unmade => cases unmade.symm.trans made
      | @lost _ i _ _ made' first failure left =>
        cases made.symm.trans made'
        have number := ended.length_waits first
        have reached : x.waits.length = i := by omega
        rw [reached] at told
        have all := all (told.isRetryable_iff.mpr (.inr ⟨_, _, failure⟩))
        have sent := ended.waited
        omega
    · refine Bool.eq_false_iff.mpr fun retryable => ?_
      rcases told.isRetryable_iff.mp retryable with mendable | ⟨links, connecting, failure⟩
      · have last := used mendable
        have sent := ended.waited
        omega
      · rw [failure] at told
        cases told
        exact other links rfl
    · cases made.symm.trans made'
      exact told.isRetryable_iff

end Pager.Transport

namespace Pager.ScriptedList

open Transport

/-- Trouble on the side of the service, as often as it is asked. -/
def troubled : Script :=
  ⟨[.response ⟨503, [], none⟩, .response ⟨503, [], none⟩], []⟩

/-- The call is not abandoned, so the one retry is made before the trouble is told. -/
theorem troubled_retried :
    (call (Script.peer fun _ => true) settings (callOf endpoint endpoint.request) troubled).result =
      .error (.status 503 "") ∧
    (Fault.status 503 "").isRetryable = true ∧
    ¬ Abandoned (Script.peer fun _ => true) settings (callOf endpoint endpoint.request) troubled ∧
    (call (Script.peer fun _ => true) settings (callOf endpoint endpoint.request) troubled).sent =
      settings.maxRetries + 1 := by
  have failed : (call (Script.peer fun _ => true) settings (callOf endpoint endpoint.request)
      troubled).result = .error (.status 503 "") := Except.fault?_eq_some.mp (by decide +kernel)
  have kept : ¬ Abandoned (Script.peer fun _ => true) settings (callOf endpoint endpoint.request)
      troubled := by
    intro abandoned
    cases abandoned with
    | unmade unmade =>
      have sendable : Except.fault? (settings.message (callOf endpoint endpoint.request)) = none := by
        decide +kernel
      rw [unmade] at sendable
      cases sendable
    | @lost message i links connecting made first failure left =>
      cases Nat.lt_one_iff.mp left
      have answer : (Script.peer fun _ => true).outcome message troubled 0 =
          .response ⟨503, [], none⟩ := rfl
      rw [answer] at failure
      cases failure
  exact ⟨failed, rfl, kept, (call_retryable failed).1.mpr kept rfl⟩

/-- A connection that is closed without an answer, and behind it the only page. -/
def closed : Script :=
  ⟨[.failure ["connection closed before message completed"] false,
    .response ⟨200, [], some (Text.toBytes "[1]")⟩], []⟩

/-- The fault is retryable, but it is told after the first of two attempts. -/
theorem closed_unretried : ∃ fault,
    (call (Script.peer fun _ => true) settings (callOf endpoint endpoint.request) closed).result =
      .error fault ∧
    fault.isRetryable = true ∧
    (call (Script.peer fun _ => true) settings (callOf endpoint endpoint.request) closed).sent = 1 ∧
    settings.maxRetries + 1 = 2 := by
  have failed : (call (Script.peer fun _ => true) settings (callOf endpoint endpoint.request)
      closed).result = .error (.transport ["connection closed before message completed"]) :=
    Except.fault?_eq_some.mp (by decide +kernel)
  exact ⟨_, failed, rfl, by decide +kernel, rfl⟩

end Pager.ScriptedList
