import Pager.Proofs.Transport.Backoff
import Pager.Proofs.Transport.Listing

namespace Pager.Transport

variable {State : Type} {peer : Peer State} {s : Settings} {timeout : Delay} {message : Message}
variable {service : State} {retries attempt : Nat} {reply : Reply} {r : Response} {wait : Delay}

/-- A far side that was sent a message so many times. -/
def Peer.after (peer : Peer State) (message : Message) (service : State) (times : Nat) : State :=
  (replies peer.answer service (List.replicate times message)).1

/-- What the attempt of a number comes to, from zero, if all before it were made. -/
def Peer.outcome (peer : Peer State) (message : Message) (service : State) (attempt : Nat) : Reply :=
  (peer.answer (peer.after message service attempt) message).2

/-- The first outcome that no further attempt may mend. -/
structure FirstFinal (outcomes : Nat → Reply) (i : Nat) : Prop where
  final : (outcomes i).isMendable = false
  before : ∀ j < i, (outcomes j).isMendable = true

/-- The delay behind an attempt of a number: what a service with a limited rate asks for, up to the
cap, and that of the backoff if nothing is asked for. -/
inductive Waited (s : Settings) (attempt : Nat) : Reply → Delay → Prop
  | asked {r : Response} {seconds : Nat} {wait : Delay} (status : r.status = 429)
      (header : r.retryAfter? = some seconds)
      (capped : wait.nanos = min (seconds * Delay.nanosPerSecond) s.backoff.cap.nanos) :
      Waited s attempt (.response r) wait
  | backoff {reply : Reply}
      (unasked : ∀ r, reply = .response r → r.status = 429 → r.retryAfter? = none) :
      Waited s attempt reply (s.backoff.delay attempt)

theorem natBelow?_lt {limit n : Nat} {digits : List Char}
    (read : Text.natBelow? limit digits = some n) : n < limit := by
  simp only [Text.natBelow?, Option.ite_none_left_eq_some, Option.ite_none_right_eq_some,
    Option.some.injEq] at read
  obtain ⟨_, below, rfl⟩ := read
  exact below

/-- The seconds asked for make a delay. -/
theorem ofSeconds_nanos {seconds : Nat} (within : seconds < Nat.pow 2 64) :
    (Delay.ofSeconds seconds).nanos = seconds * Delay.nanosPerSecond := by
  have most : seconds * Delay.nanosPerSecond ≤ (Nat.pow 2 64 - 1) * Delay.nanosPerSecond :=
    Nat.mul_le_mul_right _ (by omega)
  simp only [Delay.ofSeconds, Delay.saturated, Delay.longest]
  omega

theorem limitedWait_waited (s : Settings) (attempt : Nat) (status : r.status = 429) :
    Waited s attempt (.response r) (limitedWait s attempt r) := by
  cases header : r.retryAfter? with
  | none =>
    rw [limitedWait, header]
    exact .backoff fun other same _ => Reply.response.inj same ▸ header
  | some seconds =>
    obtain ⟨value, _, read⟩ := Option.bind_eq_some_iff.mp header
    refine .asked status header ?_
    rw [limitedWait, header]
    dsimp only
    rw [Delay.shorter_nanos, ofSeconds_nanos (natBelow?_lt read)]

theorem Waited.le_cap (waited : Waited s attempt reply wait) : wait.nanos ≤ s.backoff.cap.nanos := by
  cases waited with
  | asked status header capped =>
    rw [capped]
    exact Nat.min_le_right _ _
  | backoff unasked => exact s.backoff.delay_le_cap attempt

/-- A limited rate is worth another attempt, and tells of the delay before it in whole seconds. -/
theorem judge_limited (s : Settings) (timeout : Delay) (attempt : Nat) (status : r.status = 429) :
    judge s timeout attempt (.response r) =
      .again (limitedWait s attempt r) (.rateLimited (limitedWait s attempt r).seconds) := by
  rw [judge, if_pos status]

/-- The delay before another attempt. -/
theorem judge_waited {fault : Fault} (verdict : judge s timeout attempt reply = .again wait fault) :
    Waited s attempt reply wait := by
  cases reply with
  | silence =>
    cases verdict
    refine .backoff fun r same => ?_
    cases same
  | failure links connecting =>
    rw [judge] at verdict
    split at verdict
    · cases verdict
      refine .backoff fun r same => ?_
      cases same
    · cases verdict
  | response r =>
    by_cases limited : r.status = 429
    · rw [judge_limited s timeout attempt limited] at verdict
      cases verdict
      exact limitedWait_waited s attempt limited
    · rw [judge, if_neg limited] at verdict
      split at verdict
      · dsimp only at verdict
        split at verdict
        · cases verdict
          exact .backoff fun other same status => absurd (Reply.response.inj same ▸ status) limited
        · cases verdict
      · cases verdict

/-- What is told of an outcome that a further attempt may mend is a fault. -/
theorem ReplyResult.error_of_mendable {result : Except Fault Response}
    (told : ReplyResult s timeout attempt reply result) (mendable : reply.isMendable = true) :
    ∃ fault, result = .error fault := by
  cases told with
  | passed status =>
    simp only [Reply.isMendable, Bool.or_eq_true, beq_iff_eq] at mendable
    rcases mendable with limited | passing
    · rw [limited] at status
      cases status
    · rw [isFailure_of_isPassing passing] at status
      cases status
  | limited | failed | silent | lost => exact ⟨_, rfl⟩

/-- The outcomes are what is heard, one for each time the message is sent. -/
theorem Peer.outcome_heard (peer : Peer State) (message : Message) (service : State) {times k : Nat}
    (within : k < times) :
    (replies peer.answer service (List.replicate times message)).2[k]? =
      some (peer.outcome message service k) := by
  rw [replies_getElem?, List.getElem?_replicate, if_pos within, List.take_replicate,
    Nat.min_eq_left (Nat.le_of_lt within), Option.map_some]
  rfl

/-- Each wait of an exchange is the delay behind its attempt. -/
theorem exchange_waited (peer : Peer State) (s : Settings) (timeout : Delay) (message : Message)
    (retries attempt : Nat) (service : State) :
    ∀ k wait, (exchange peer s timeout message retries attempt service).waits[k]? = some wait →
      Waited s (attempt + k) (peer.outcome message service k) wait := by
  induction retries generalizing attempt service with
  | zero =>
    intro k wait there
    unfold exchange at there
    cases verdict : judge s timeout attempt (peer.answer service message).2 <;>
      simp [verdict] at there
  | succ retries ih =>
    intro k wait there
    unfold exchange at there
    cases verdict : judge s timeout attempt (peer.answer service message).2 with
    | done r | fatal fault => simp [verdict] at there
    | again first fault =>
      simp only [verdict] at there
      cases k with
      | zero =>
        cases there
        exact judge_waited verdict
      | succ k =>
        -- the waits behind the first are those of the attempts that follow
        have later := ih (attempt + 1) (peer.answer service message).1 k wait there
        have number : attempt + 1 + k = attempt + (k + 1) := by omega
        rw [number] at later
        exact later

/-- The outcomes of an exchange: all that are waited behind may be mended, the one behind them only
if the retries are used up, and it is that one that is told. -/
theorem Ended.outcomes {x : Exchange State}
    (ended : Ended peer s timeout message retries attempt service x) :
    (∀ k < x.waits.length, (peer.outcome message service k).isMendable = true) ∧
    ((peer.outcome message service x.waits.length).isMendable = true → x.waits.length = retries) ∧
    ReplyResult s timeout (attempt + x.waits.length) (peer.outcome message service x.waits.length)
      x.result := by
  obtain ⟨front, last, heard, mended, used, told⟩ := ended.heard
  have long : front.length = x.waits.length := by
    have all := congrArg List.length heard
    rw [replies_length, List.length_replicate, ended.waited, List.length_append,
      List.length_singleton] at all
    omega
  have one (k : Nat) (within : k ≤ x.waits.length) :
      (front ++ [last])[k]? = some (peer.outcome message service k) := by
    have sent := ended.waited
    rw [← heard]
    exact peer.outcome_heard message service (by omega)
  have final : last = peer.outcome message service x.waits.length := by
    have there := one x.waits.length (Nat.le_refl _)
    rw [← long, List.getElem?_concat_length, long] at there
    exact Option.some.inj there
  refine ⟨fun k before => mended _ ?_, final ▸ used, final ▸ told⟩
  have there := one k (Nat.le_of_lt before)
  rw [List.getElem?_append_left (by omega)] at there
  exact List.mem_of_getElem? there

/-- The first final outcome is the last one, unless it lies behind the retries. -/
theorem Ended.length_waits {x : Exchange State} {i : Nat}
    (ended : Ended peer s timeout message retries attempt service x)
    (first : FirstFinal (peer.outcome message service) i) : x.waits.length = min i retries := by
  obtain ⟨mended, used, _⟩ := ended.outcomes
  have within := ended.within
  rcases Nat.lt_trichotomy x.waits.length i with before | rfl | behind
  · have last := used (first.before _ before)
    omega
  · omega
  · have later := mended i behind
    rw [first.final] at later
    cases later

/-- What a call comes to, by the outcomes of its attempts. -/
structure FollowsOutcomes (s : Settings) (timeout : Delay) (outcomes : Nat → Reply)
    (x : Exchange State) : Prop where
  stopped : ∀ i, FirstFinal outcomes i → x.sent = min (i + 1) (s.maxRetries + 1)
  spent : (∀ i, (outcomes i).isMendable = true) → x.sent = s.maxRetries + 1
  reached : ∀ i, FirstFinal outcomes i → i ≤ s.maxRetries →
    ReplyResult s timeout i (outcomes i) x.result
  unreached : (∀ i ≤ s.maxRetries, (outcomes i).isMendable = true) →
    ∃ fault, x.result = .error fault ∧
      ReplyResult s timeout s.maxRetries (outcomes s.maxRetries) (.error fault)
  waits : x.waits.length + 1 = x.sent
  waited : ∀ k wait, x.waits[k]? = some wait →
    Waited s k (outcomes k) wait ∧ wait.nanos ≤ s.backoff.cap.nanos
  limited : ∀ seconds, x.result = .error (.rateLimited seconds) →
    ∃ wait, Waited s x.waits.length (outcomes x.waits.length) wait ∧ wait.nanos ≤ s.backoff.cap.nanos ∧
      seconds = wait.seconds

theorem ReplyResult.limited_waited {seconds : Nat}
    (told : ReplyResult s timeout attempt reply (.error (.rateLimited seconds))) :
    ∃ wait, Waited s attempt reply wait ∧ wait.nanos ≤ s.backoff.cap.nanos ∧
      seconds = wait.seconds := by
  cases told with
  | limited status =>
    have waited := limitedWait_waited s attempt status
    exact ⟨_, waited, waited.le_cap, rfl⟩

theorem exchange_followsOutcomes (peer : Peer State) (s : Settings) (timeout : Delay) (message : Message)
    (service : State) :
    FollowsOutcomes s timeout (peer.outcome message service)
      (exchange peer s timeout message s.maxRetries 0 service) := by
  have ended := exchange_ended peer s timeout message s.maxRetries 0 service
  have waited := exchange_waited peer s timeout message s.maxRetries 0 service
  generalize exchange peer s timeout message s.maxRetries 0 service = x at ended waited ⊢
  obtain ⟨_, used, told⟩ := ended.outcomes
  rw [Nat.zero_add] at told
  have sent := ended.waited
  have within := ended.within
  refine ⟨fun i first => ?_, fun all => ?_, fun i first inside => ?_, fun all => ?_, sent.symm,
    fun k wait there => ?_, fun seconds fault => ?_⟩
  · have number := ended.length_waits first
    omega
  · rw [sent, used (all _)]
  · have number : x.waits.length = i := by
      have number := ended.length_waits first
      omega
    rw [number] at told
    exact told
  · rw [used (all _ within)] at told
    obtain ⟨fault, failed⟩ := told.error_of_mendable (all _ (Nat.le_refl _))
    exact ⟨fault, failed, failed ▸ told⟩
  · have delay := waited k wait there
    rw [Nat.zero_add] at delay
    exact ⟨delay, delay.le_cap⟩
  · rw [fault] at told
    exact told.limited_waited

/-- Every call follows the outcomes of its attempts. One that can be made into a message sends it
until the first outcome that no further attempt may mend, and at most once more than there are
retries; told is that outcome, if it was reached, and else the fault of the last attempt. The waits
are those behind the attempts that failed, in their order: what the far side asks for, up to the cap,
if it limits the rate and says how long in whole seconds, and else the backoff, which never exceeds
the cap either. A limited rate is told with its delay in whole seconds, whether it is the last outcome
or not. Counts and delays are exact here, also for a growth by equal steps that overflows in words
(`Backoff.Fits` says when it does not) and for retries whose number is the largest that a word holds.
-/
theorem call_exact (peer : Peer State) (s : Settings) (c : Call) (service : State) :
    (∀ fault, s.message c = .error fault → call peer s c service = ⟨service, 0, [], .error fault⟩) ∧
    ∀ message, s.message c = .ok message →
      (call peer s c service).service = peer.after message service (call peer s c service).sent ∧
      FollowsOutcomes s (c.timeout.getD s.timeout) (peer.outcome message service) (call peer s c service) ∧
      ∀ k r, peer.outcome message service k = .response r → r.status = 429 →
        ∃ wait, Waited s k (.response r) wait ∧ wait.nanos ≤ s.backoff.cap.nanos ∧
          judge s (c.timeout.getD s.timeout) k (.response r) =
            .again wait (.rateLimited wait.seconds) := by
  refine ⟨fun fault unmade => ?_, fun message made => ?_⟩
  · unfold call
    simp only [unmade]
  · have sent : call peer s c service =
        exchange peer s (c.timeout.getD s.timeout) message s.maxRetries 0 service := by
      unfold call
      simp only [made]
    rw [sent]
    refine ⟨(exchange_ended peer s _ message _ 0 service).served.symm,
      exchange_followsOutcomes peer s _ message service, fun k r _ status => ?_⟩
    have waited := limitedWait_waited s k status
    exact ⟨_, waited, waited.le_cap, judge_limited s _ k status⟩

end Pager.Transport

namespace Pager.ScriptedList

open Transport

def patient : Settings :=
  { Settings.standard with maxRetries := 3 }

/-- A limited rate, silence, and behind them the only page. -/
def throttled : Script :=
  ⟨[.response ⟨429, [("retry-after", "3600")], none⟩, .silence,
    .response ⟨200, [], some (Text.toBytes "[1]")⟩], []⟩

/-- The page is told after three attempts; the hour that is asked for is cut down to the cap, and
the silence is waited behind as long as the backoff says. -/
theorem throttled_exact : ∃ message, patient.message (callOf endpoint endpoint.request) = .ok message ∧
    FirstFinal ((Script.peer fun _ => true).outcome message throttled) 2 ∧
    let x := call (Script.peer fun _ => true) patient (callOf endpoint endpoint.request) throttled
    x.sent = 3 ∧ x.waits.length = 2 ∧ x.result = .ok ⟨200, [], some (Text.toBytes "[1]")⟩ ∧
    (∀ wait, x.waits[0]? = some wait → wait.seconds = 20) ∧
    ∀ wait, x.waits[1]? = some wait → wait = patient.backoff.delay 1 := by
  have sendable : (patient.message (callOf endpoint endpoint.request)).toOption.isSome = true := by
    decide +kernel
  obtain ⟨message, there⟩ := Option.isSome_iff_exists.mp sendable
  have made := Except.toOption_eq_some.mp there
  have first : FirstFinal ((Script.peer fun _ => true).outcome message throttled) 2 := by
    refine ⟨rfl, fun j before => ?_⟩
    match j, before with
    | 0, _ => rfl
    | 1, _ => rfl
  obtain ⟨_, holds, _⟩ := (call_exact (Script.peer fun _ => true) patient
    (callOf endpoint endpoint.request) throttled).2 message made
  generalize call (Script.peer fun _ => true) patient (callOf endpoint endpoint.request) throttled = x
    at holds ⊢
  have sent : x.sent = 3 := holds.stopped 2 first
  have waits := holds.waits
  refine ⟨message, made, first, sent, by omega, ?_, fun wait there => ?_, fun wait there => ?_⟩
  · have told := holds.reached 2 first (by decide)
    have answer : (Script.peer fun _ => true).outcome message throttled 2 =
        .response ⟨200, [], some (Text.toBytes "[1]")⟩ := rfl
    rw [answer] at told
    generalize x.result = result at told ⊢
    cases told with
    | passed => rfl
    | limited status => cases status
    | failed status => cases status
  · have answer : (Script.peer fun _ => true).outcome message throttled 0 =
        .response ⟨429, [("retry-after", "3600")], none⟩ := rfl
    obtain ⟨waited, _⟩ := holds.waited 0 wait there
    rw [answer] at waited
    cases waited with
    | asked _ header capped =>
      have asked : some 3600 = some _ := header
      cases asked
      rw [Delay.seconds, capped]
      decide
    | backoff unasked => exact absurd (unasked _ rfl rfl) (by decide)
  · have answer : (Script.peer fun _ => true).outcome message throttled 1 = .silence := rfl
    obtain ⟨waited, _⟩ := holds.waited 1 wait there
    rw [answer] at waited
    cases waited with
    | backoff => rfl

end Pager.ScriptedList
