import Pager.Proofs.Walk.Offering
import Pager.Transport.Exchange

namespace Pager.Transport

def isSuccess (status : Nat) : Bool :=
  200 ≤ status && status < 300

/-- The statuses that are told as faults. -/
def isFailure (status : Nat) : Bool :=
  400 ≤ status && status < 600

/-- Whether a further attempt may mend a reply. -/
def Reply.isMendable : Reply → Bool
  | .response r => r.status == 429 || isPassing r.status
  | .silence => true
  | .failure links connecting => connecting && !Fault.isLookupFailure links

/-- What is told of a reply to the attempt of a number. -/
inductive ReplyResult (s : Settings) (timeout : Delay) (attempt : Nat) :
    Reply → Except Fault Response → Prop
  | passed {r : Response} (status : isFailure r.status = false) :
    ReplyResult s timeout attempt (.response r) (.ok r)
  | limited {r : Response} (status : r.status = 429) :
    ReplyResult s timeout attempt (.response r) (.error (.rateLimited (limitedWait s attempt r).seconds))
  | failed {r : Response} (status : isFailure r.status = true) (other : r.status ≠ 429) :
    ReplyResult s timeout attempt (.response r) (.error (.status r.status (r.text?.getD "")))
  | silent : ReplyResult s timeout attempt .silence (.error (.timeout (timeout.millis % Nat.pow 2 64)))
  | lost {links : List String} {connecting : Bool} :
    ReplyResult s timeout attempt (.failure links connecting) (.error (.transport links))

/-- What is told of an attempt if it is the last. -/
def Verdict.result : Verdict → Except Fault Response
  | .done r => .ok r
  | .fatal fault => .error fault
  | .again _ fault => .error fault

def Verdict.isAgain : Verdict → Bool
  | .again _ _ => true
  | _ => false

theorem judge_result (s : Settings) (timeout : Delay) (attempt : Nat) (reply : Reply) :
    ReplyResult s timeout attempt reply (judge s timeout attempt reply).result := by
  cases reply with
  | silence => exact .silent
  | failure links connecting =>
    rw [judge]
    split
    · exact .lost
    · exact .lost
  | response r =>
    rw [judge]
    split
    · rename_i limited
      exact .limited limited
    · rename_i other
      split
      · rename_i failure
        split
        · exact .failed failure other
        · exact .failed failure other
      · rename_i open_
        exact .passed (Bool.eq_false_iff.mpr open_)

theorem isFailure_of_isPassing {status : Nat} (passing : isPassing status = true) :
    isFailure status = true := by
  simp only [isPassing, Bool.or_eq_true, beq_iff_eq] at passing
  rcases passing with ((rfl | rfl) | rfl) | rfl <;> rfl

theorem judge_isAgain (s : Settings) (timeout : Delay) (attempt : Nat) (reply : Reply) :
    (judge s timeout attempt reply).isAgain = reply.isMendable := by
  cases reply with
  | silence => rfl
  | failure links connecting =>
    rw [judge, Reply.isMendable]
    split
    · rename_i mendable
      exact mendable.symm
    · rename_i final
      exact (Bool.eq_false_iff.mpr final).symm
  | response r =>
    rw [judge, Reply.isMendable]
    split
    · rename_i limited
      simp [limited, Verdict.isAgain]
    · rename_i other
      have passes : (r.status == 429 || isPassing r.status) = isPassing r.status := by simp [other]
      rw [passes]
      split
      · split
        · rename_i passing
          exact passing.symm
        · rename_i final
          exact (Bool.eq_false_iff.mpr final).symm
      · -- a status that may pass is a failure, so this one is not
        rename_i open_
        exact (Bool.eq_false_iff.mpr (mt isFailure_of_isPassing open_)).symm

variable {State : Type} {peer : Peer State} {s : Settings} {timeout : Delay} {message : Message}

/-- What an exchange came to that could send its message so many times more: the replies were all
mendable but the last one, and it is this one that is told. -/
structure Ended (peer : Peer State) (s : Settings) (timeout : Delay) (message : Message)
    (retries attempt : Nat) (service : State) (x : Exchange State) : Prop where
  served : (replies peer.answer service (List.replicate x.sent message)).1 = x.service
  waited : x.sent = x.waits.length + 1
  within : x.waits.length ≤ retries
  heard : ∃ front last,
    (replies peer.answer service (List.replicate x.sent message)).2 = front ++ [last] ∧
    (∀ reply ∈ front, reply.isMendable = true) ∧
    (last.isMendable = true → x.waits.length = retries) ∧
    ReplyResult s timeout (attempt + x.waits.length) last x.result

/-- An exchange whose first reply is told. -/
theorem Ended.once {retries attempt : Nat} {service later : State} {reply : Reply}
    {result : Except Fault Response} (answered : peer.answer service message = (later, reply))
    (told : ReplyResult s timeout attempt reply result) (given : reply.isMendable = true → retries = 0) :
    Ended peer s timeout message retries attempt service ⟨later, 1, [], result⟩ where
  served := by
    simp only [List.replicate, replies_cons, replies_nil, answered]
  waited := rfl
  within := Nat.zero_le _
  heard := by
    refine ⟨[], reply, ?_, nofun, fun mendable => (given mendable).symm, told⟩
    simp only [List.replicate, replies_cons, replies_nil, answered, List.nil_append]

/-- An exchange whose first reply is mended. -/
theorem Ended.again {retries attempt : Nat} {service later : State} {reply : Reply} {wait : Delay}
    {x : Exchange State} (answered : peer.answer service message = (later, reply))
    (mendable : reply.isMendable = true)
    (rest : Ended peer s timeout message retries (attempt + 1) later x) :
    Ended peer s timeout message (retries + 1) attempt service
      ⟨x.service, x.sent + 1, wait :: x.waits, x.result⟩ where
  served := by
    simp only [List.replicate, replies_cons, answered, rest.served]
  waited := by
    simp only [List.length_cons, rest.waited]
  within := Nat.succ_le_succ rest.within
  heard := by
    obtain ⟨front, last, heard, mended, used, told⟩ := rest.heard
    refine ⟨reply :: front, last, ?_, List.forall_mem_cons.mpr ⟨mendable, mended⟩,
      fun more => congrArg (· + 1) (used more), ?_⟩
    · simp only [List.replicate, replies_cons, answered, heard, List.cons_append]
    · have number : attempt + (x.waits.length + 1) = attempt + 1 + x.waits.length := by omega
      simpa only [List.length_cons, number] using told

theorem exchange_ended (peer : Peer State) (s : Settings) (timeout : Delay) (message : Message)
    (retries attempt : Nat) (service : State) :
    Ended peer s timeout message retries attempt service
      (exchange peer s timeout message retries attempt service) := by
  induction retries generalizing attempt service with
  | zero =>
    -- no retry is left, so every verdict is the last word
    unfold exchange
    rcases answered : peer.answer service message with ⟨later, reply⟩
    have told := judge_result s timeout attempt reply
    cases verdict : judge s timeout attempt reply with
    | done r | fatal fault | again wait fault =>
      rw [verdict] at told
      simp only [verdict]
      exact .once answered told fun _ => rfl
  | succ retries ih =>
    unfold exchange
    rcases answered : peer.answer service message with ⟨later, reply⟩
    have told := judge_result s timeout attempt reply
    have mendable := judge_isAgain s timeout attempt reply
    cases verdict : judge s timeout attempt reply with
    | done r | fatal fault =>
      rw [verdict] at told mendable
      simp only [verdict]
      exact .once answered told fun again => nomatch mendable.trans again
    | again wait fault =>
      rw [verdict] at mendable
      simp only [verdict]
      exact .again answered mendable.symm (ih (attempt + 1) later)

/-- What a call came to: nothing is sent when it cannot be made into a message. -/
def Called (peer : Peer State) (s : Settings) (c : Call) (service : State) (x : Exchange State) :
    Prop :=
  (∃ fault, s.message c = .error fault ∧ x = ⟨service, 0, [], .error fault⟩) ∨
  ∃ message, s.message c = .ok message ∧
    Ended peer s (c.timeout.getD s.timeout) message s.maxRetries 0 service x

theorem call_called (peer : Peer State) (s : Settings) (c : Call) (service : State) :
    Called peer s c service (call peer s c service) := by
  unfold call
  cases made : s.message c with
  | error fault => exact .inl ⟨fault, made, rfl⟩
  | ok message => exact .inr ⟨message, made, exchange_ended peer s _ message _ 0 service⟩

theorem judge_passed {attempt : Nat} {r : Response} (status : isFailure r.status = false) :
    judge s timeout attempt (.response r) = .done r := by
  have told := judge_result s timeout attempt (.response r)
  cases verdict : judge s timeout attempt (.response r) with
  | done r' =>
    rw [verdict] at told
    cases told
    rfl
  | fatal fault | again wait fault =>
    rw [verdict] at told
    cases told with
    | limited limited => simp [limited, isFailure] at status
    | failed failure _ => simp [failure] at status

/-- A first response that is no failure is told as it is. -/
theorem call_passed {c : Call} {service : State} {r : Response} (made : s.message c = .ok message)
    (answered : (peer.answer service message).2 = .response r) (status : isFailure r.status = false) :
    (call peer s c service).result = .ok r := by
  unfold call
  simp only [made]
  unfold exchange
  simp only [answered, judge_passed status]

/-- Whether everything a service may yet answer is a success or told as a fault. -/
def Peer.Decisive (peer : Peer State) (service : State) : Prop :=
  ∀ messages r, .response r ∈ (replies peer.answer service messages).2 →
    isSuccess r.status = true ∨ isFailure r.status = true

theorem Peer.Decisive.later {service : State} (decisive : peer.Decisive service)
    (messages : List Message) : peer.Decisive (replies peer.answer service messages).1 := by
  intro more r heard
  refine decisive (messages ++ more) r ?_
  rw [replies_append]
  exact List.mem_append_right _ heard

section

variable {c : Call} {service : State} {x : Exchange State} {r : Response}

/-- The response that is told, among the replies. -/
theorem Ended.response {retries attempt : Nat}
    (ended : Ended peer s timeout message retries attempt service x) (told : x.result = .ok r) :
    .response r ∈ (replies peer.answer service (List.replicate x.sent message)).2 ∧
      isFailure r.status = false := by
  obtain ⟨front, last, heard, _, _, final⟩ := ended.heard
  rw [told] at final
  cases final with
  | passed status =>
    rw [heard]
    exact ⟨List.mem_append_right _ List.mem_cons_self, status⟩

theorem Called.not_failure (called : Called peer s c service x) (told : x.result = .ok r) :
    isFailure r.status = false := by
  rcases called with ⟨fault, _, rfl⟩ | ⟨message, _, ended⟩
  · cases told
  · exact (ended.response told).2

theorem Called.success (called : Called peer s c service x) (told : x.result = .ok r)
    (decisive : peer.Decisive service) : isSuccess r.status = true := by
  rcases called with ⟨fault, _, rfl⟩ | ⟨message, _, ended⟩
  · cases told
  · obtain ⟨heard, status⟩ := ended.response told
    exact (decisive _ r heard).resolve_right (by simp [status])

theorem Called.decisive (called : Called peer s c service x) (decisive : peer.Decisive service) :
    peer.Decisive x.service := by
  rcases called with ⟨fault, _, rfl⟩ | ⟨message, _, ended⟩
  · exact decisive
  · rw [← ended.served]
    exact decisive.later _

end

end Pager.Transport
