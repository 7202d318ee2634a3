import Pager.Proofs.Transport.Listing
import Pager.Proofs.Walk.Likeness
import Pager.Proofs.Walk.Run

namespace Pager.Transport

section

variable {State : Type} {peer : Peer State} {s : Settings} {timeout : Delay} {message : Message}
variable {retries attempt : Nat} {service later : State} {reply : Reply}

theorem judge_of_final (final : reply.isMendable = false) :
    judge s timeout attempt reply = judge s timeout 0 reply := by
  cases reply with
  | silence => simp [Reply.isMendable] at final
  | failure links connecting =>
    simp only [Reply.isMendable] at final
    simp [judge, final]
  | response r =>
    simp only [Reply.isMendable, Bool.or_eq_false_iff, beq_eq_false_iff_ne] at final
    simp [judge, final.1, final.2]

/-- A final reply is told, whatever the number of its attempt. -/
theorem exchange_of_final (answered : peer.answer service message = (later, reply))
    (final : reply.isMendable = false) :
    exchange peer s timeout message retries attempt service =
      ⟨later, 1, [], (judge s timeout 0 reply).result⟩ := by
  have mendable := judge_isAgain s timeout 0 reply
  unfold exchange
  simp only [answered, judge_of_final final]
  cases verdict : judge s timeout 0 reply with
  | done r | fatal fault => rfl
  | again wait fault =>
    rw [verdict, final] at mendable
    cases mendable

/-- Behind a mendable reply the rest of the exchange follows. -/
theorem exchange_of_mendable (answered : peer.answer service message = (later, reply))
    (mendable : reply.isMendable = true) :
    ∃ wait, exchange peer s timeout message (retries + 1) attempt service =
      let rest := exchange peer s timeout message retries (attempt + 1) later
      ⟨rest.service, rest.sent + 1, wait :: rest.waits, rest.result⟩ := by
  have isAgain := judge_isAgain s timeout attempt reply
  rw [exchange]
  simp only [answered]
  cases verdict : judge s timeout attempt reply with
  | done r | fatal fault =>
    rw [verdict, mendable] at isAgain
    cases isAgain
  | again wait fault => exact ⟨wait, rfl⟩

end

/-- A reply as a scripted service sends it. -/
def Reply.sent : Reply → Reply
  | .response r => .response r.sent
  | reply => reply

theorem Reply.isMendable_sent (reply : Reply) : reply.sent.isMendable = reply.isMendable := by
  cases reply <;> rfl

/-- The next reply of a script and those behind it. -/
def Script.next : List Reply → Reply × List Reply
  | [] => (spent, [])
  | reply :: rest => (reply.sent, rest)

/-- The scripted service that is reached everywhere. -/
def Script.reached : Peer Script :=
  Script.peer fun _ => true

theorem Script.answer_reached (replies : List Reply) (received : List Message) (message : Message) :
    Script.reached.answer ⟨replies, received⟩ message =
      (⟨(Script.next replies).2, received ++ [message]⟩, (Script.next replies).1) := by
  cases replies with
  | nil => rfl
  | cons reply rest => cases reply <;> rfl

variable {s : Settings} {timeout : Delay} {message : Message} {retries attempt : Nat}

/-- Failures that the retries suffice for are mended by the final reply behind them. -/
theorem exchange_failures {failures tail : List Reply} (received : List Message)
    (mendable : ∀ failure ∈ failures, failure.isMendable = true) (few : failures.length ≤ retries)
    (final : (Script.next tail).1.isMendable = false) :
    let x := exchange Script.reached s timeout message retries attempt ⟨failures ++ tail, received⟩
    x.result = (judge s timeout 0 (Script.next tail).1).result ∧
      x.service.replies = (Script.next tail).2 := by
  induction failures generalizing retries attempt received with
  | nil =>
    simp only [List.nil_append, exchange_of_final (Script.answer_reached tail received message) final,
      and_self]
  | cons failure failures ih =>
    obtain ⟨first, rest⟩ := List.forall_mem_cons.mp mendable
    obtain ⟨retries, rfl⟩ := Nat.exists_eq_add_of_le' (Nat.le_trans (Nat.le_add_left 1 _) few)
    have answered := Script.answer_reached (failure :: failures ++ tail) received message
    have mends : failure.sent.isMendable = true := failure.isMendable_sent.trans first
    obtain ⟨wait, same⟩ : ∃ wait, exchange Script.reached s timeout message (retries + 1) attempt
        ⟨failure :: failures ++ tail, received⟩ = _ := exchange_of_mendable answered mends
    simp only [same]
    exact ih _ rest (Nat.le_of_succ_le_succ few)

/-- What a script answers does not hang on what it received. -/
theorem exchange_received (replies : List Reply) (received others : List Message) :
    let x := exchange Script.reached s timeout message retries attempt ⟨replies, received⟩
    let y := exchange Script.reached s timeout message retries attempt ⟨replies, others⟩
    x.result = y.result ∧ x.service.replies = y.service.replies := by
  induction retries generalizing attempt replies received others with
  | zero =>
    unfold exchange
    simp only [Script.answer_reached]
    cases judge s timeout attempt (Script.next replies).1 <;> exact ⟨rfl, rfl⟩
  | succ retries ih =>
    unfold exchange
    simp only [Script.answer_reached]
    cases judge s timeout attempt (Script.next replies).1 with
    | done r | fatal fault => exact ⟨rfl, rfl⟩
    | again wait fault => exact ih _ _ _

/-- Scripts that differ in the failures in front of some final replies, where the retries suffice for
the failures in front of each. -/
inductive Settles (retries : Nat) : List Reply → List Reply → Prop
  | same (replies : List Reply) : Settles retries replies replies
  | answered {failures replies fewer : List Reply} {answer : Reply} :
      (∀ failure ∈ failures, failure.isMendable = true) → failures.length ≤ retries →
      answer.isMendable = false → Settles retries replies fewer →
      Settles retries (failures ++ answer :: replies) (answer :: fewer)

/-- Calls over such scripts come to the same, and leave such scripts. -/
theorem exchange_settles {replies fewer : List Reply} (settles : Settles retries replies fewer)
    (received others : List Message) :
    let x := exchange Script.reached s timeout message retries 0 ⟨replies, received⟩
    let y := exchange Script.reached s timeout message retries 0 ⟨fewer, others⟩
    x.result = y.result ∧ Settles retries x.service.replies y.service.replies := by
  cases settles with
  | same =>
    obtain ⟨result, left⟩ := exchange_received (s := s) replies received others
    refine ⟨result, ?_⟩
    simp only [left]
    exact .same _
  | @answered failures replies fewer answer mendable few final rest =>
    have final : (Script.next (answer :: replies)).1.isMendable = false :=
      answer.isMendable_sent.trans final
    obtain ⟨result, left⟩ := exchange_failures received mendable few final
    have first : (Script.next (answer :: fewer)).1.isMendable = false := final
    rw [exchange_of_final (Script.answer_reached _ others message) first]
    exact ⟨result, left ▸ rest⟩

/-- Whether each final reply of a script comes behind at most so many mendable ones in a row. -/
def Spaced (retries : Nat) (script : List Reply) : Prop :=
  ∀ front failures answer rest, script = front ++ failures ++ answer :: rest →
    (∀ failure ∈ failures, failure.isMendable = true) → answer.isMendable = false →
    failures.length ≤ retries

/-- A script without the mendable replies that a final one stands behind; those at its end stay. -/
def settled : List Reply → List Reply
  | [] => []
  | reply :: rest =>
    if reply.isMendable && rest.any fun later => !later.isMendable then settled rest
    else reply :: settled rest

theorem settled_of_final {reply : Reply} (final : reply.isMendable = false) (rest : List Reply) :
    settled (reply :: rest) = reply :: settled rest := by
  simp [settled, final]

theorem settled_of_mendable {replies : List Reply}
    (mendable : ∀ reply ∈ replies, reply.isMendable = true) : settled replies = replies := by
  induction replies with
  | nil => rfl
  | cons reply rest ih =>
    obtain ⟨_, later⟩ := List.forall_mem_cons.mp mendable
    have unfinal : rest.any (fun later => !later.isMendable) = false := by simpa using later
    simp [settled, unfinal, ih later]

/-- Mendable replies in front of a final one are dropped. -/
theorem settled_behind {failures : List Reply} {answer : Reply}
    (mendable : ∀ failure ∈ failures, failure.isMendable = true) (final : answer.isMendable = false)
    (rest : List Reply) : settled (failures ++ answer :: rest) = answer :: settled rest := by
  induction failures with
  | nil => exact settled_of_final final rest
  | cons failure failures ih =>
    obtain ⟨first, later⟩ := List.forall_mem_cons.mp mendable
    have behind : (failures ++ answer :: rest).any (fun later => !later.isMendable) = true := by
      simp [final]
    simp [settled, first, behind, ih later]

/-- A script that ends in a final reply is settled by dropping every mendable one. -/
theorem settled_concat (replies : List Reply) {last : Reply} (final : last.isMendable = false) :
    settled (replies ++ [last]) = (replies ++ [last]).filter fun reply => !reply.isMendable := by
  induction replies with
  | nil => simp [settled, final]
  | cons reply rest ih =>
    have behind : (rest ++ [last]).any (fun later => !later.isMendable) = true := by simp [final]
    rw [List.cons_append, List.filter_cons, settled, behind, ih]
    cases reply.isMendable <;> rfl

/-- A script whose failures the retries suffice for differs from the settled one in nothing else; the
induction is on what stands behind the failures read so far. -/
theorem Spaced.settles {retries : Nat} {failures replies : List Reply}
    (spaced : Spaced retries (failures ++ replies))
    (mendable : ∀ failure ∈ failures, failure.isMendable = true) :
    Settles retries (failures ++ replies) (settled (failures ++ replies)) := by
  induction replies generalizing failures with
  | nil =>
    rw [List.append_nil, settled_of_mendable mendable]
    exact .same _
  | cons reply rest ih =>
    cases first : reply.isMendable with
    | true =>
      have more : ∀ failure ∈ failures ++ [reply], failure.isMendable = true := by
        simp only [List.mem_append, List.mem_singleton]
        rintro failure (member | rfl)
        · exact mendable failure member
        · exact first
      rw [List.append_cons] at spaced ⊢
      exact ih spaced more
    | false =>
      have few := spaced [] failures reply rest rfl mendable first
      have left : Spaced retries ([] ++ rest) := fun front more answer tail same =>
        spaced (failures ++ reply :: front) more answer tail (by
          simp only [List.nil_append] at same
          simp [same])
      rw [settled_behind mendable first]
      exact .answered mendable few first (ih left nofun)

variable {e : Endpoint} {t : Settings}

theorem call_settles {one other : Script} (c : Call)
    (settles : Settles s.maxRetries one.replies other.replies) :
    (call Script.reached s c one).result = (call Script.reached s c other).result ∧
      Settles s.maxRetries (call Script.reached s c one).service.replies
        (call Script.reached s c other).service.replies := by
  unfold call
  cases s.message c with
  | error fault => exact ⟨rfl, settles⟩
  | ok message => exact exchange_settles settles one.received other.received

theorem keeps_settles (e : Endpoint) (t : Settings) :
    (e.operation t Script.reached).Keeps fun one other =>
      Settles t.maxRetries one.replies other.replies := by
  intro one other settles request
  have both := call_settles (callOf e request) settles
  rw [Endpoint.fetch_eq, Endpoint.fetch_eq]
  generalize call Script.reached t (callOf e request) one = x at both ⊢
  generalize call Script.reached t (callOf e request) other = y at both ⊢
  exact ⟨congrArg (fun told => told.bind (decodePage e)) both.1, both.2⟩

/-- A message that is sent so many times again; nothing, if there is none to be made. -/
def attempts (again : Nat) : Except Fault Message → List Message
  | .ok message => List.replicate (again + 1) message
  | .error _ => []

theorem Script.received_replies (messages : List Message) (script : Script) :
    (Pager.replies Script.reached.answer script messages).1.received =
      script.received ++ messages := by
  induction messages generalizing script with
  | nil => simp
  | cons message rest ih =>
    rw [replies_cons, ih, Script.answer_reached, List.append_assoc, List.singleton_append]

theorem received_fetch (request : ListRequest) (script : Script) :
    ∃ again ≤ t.maxRetries, ((e.operation t Script.reached).fetch script request).1.received =
      script.received ++ attempts again (t.message (callOf e request)) := by
  have called := call_called Script.reached t (callOf e request) script
  rw [Endpoint.fetch_eq]
  generalize call Script.reached t (callOf e request) script = x at called ⊢
  rcases called with ⟨fault, unmade, rfl⟩ | ⟨message, made, ended⟩
  · refine ⟨0, Nat.zero_le _, ?_⟩
    rw [unmade, attempts, List.append_nil]
  · refine ⟨_, ended.within, ?_⟩
    rw [← ended.served, Script.received_replies, ended.waited, made, attempts]

/-- What a script received of several requests: each of them in at most so many attempts. -/
theorem received_fetches (requests : List ListRequest) (script : Script) :
    ∃ again : List Nat, again.length = requests.length ∧ (∀ times ∈ again, times ≤ t.maxRetries) ∧
      (Pager.replies (e.operation t Script.reached).fetch script requests).1.received =
        script.received ++ (List.zipWith attempts again (requests.map fun request =>
          t.message (callOf e request))).flatten := by
  induction requests generalizing script with
  | nil => exact ⟨[], rfl, nofun, by simp⟩
  | cons request rest ih =>
    obtain ⟨times, within, first⟩ := received_fetch (e := e) (t := t) request script
    obtain ⟨again, long, bounded, received⟩ :=
      ih ((e.operation t Script.reached).fetch script request).1
    refine ⟨times :: again, congrArg (· + 1) long, List.forall_mem_cons.mpr ⟨within, bounded⟩, ?_⟩
    rw [replies_cons, received, first]
    simp

end Pager.Transport

namespace Pager

open Transport

/-- What is seen of an invocation from outside: its outcome, its events and what its sink keeps. -/
def Walk.Finished.seen {Service Request Value Kept : Type} (f : Finished Service Request Value Kept) :
    Outcome × List (Event Request Value) × Kept :=
  (f.outcome, f.standing.events, f.standing.kept)

variable {Context Value Kept : Type} {e : Endpoint} {t : Settings} {script : Script}
variable {s : Setting Script ListRequest ListPage Context Value Kept}

/-- Retries are invisible to paging: if they suffice for the failures in front of every final reply of
a script, an invocation cannot be told from the one over the script without these failures, by its
requests and their cursors, the values it emits or its outcome. A script that ends in a final reply is
then one of final replies only. What the script receives are the requests in their order, every attempt
of a request being the same message. -/
theorem Endpoint.execute_settled (web : s.operation = e.operation t Script.reached)
    (spaced : Spaced t.maxRetries script.replies) (turns : Nat) (request : ListRequest)
    (control : Control) (kept : Kept) :
    (Walk.execute s turns request control script kept).map Walk.Finished.seen =
      (Walk.execute s turns request control { script with replies := settled script.replies }
        kept).map Walk.Finished.seen ∧
    (∀ front last, script.replies = front ++ [last] → last.isMendable = false →
      settled script.replies = script.replies.filter fun reply => !reply.isMendable) ∧
    ∀ f, Walk.execute s turns request control script kept = some f →
      ∃ again : List Nat, again.length = (Walk.requests f.standing.events).length ∧
        (∀ times ∈ again, times ≤ t.maxRetries) ∧
        f.standing.service.received = script.received ++
          (List.zipWith attempts again ((Walk.requests f.standing.events).map fun request =>
            t.message (callOf e request))).flatten := by
  refine ⟨?_, ?_, ?_⟩
  · have keeps : s.operation.Keeps fun one other =>
        Settles t.maxRetries one.replies other.replies := web ▸ keeps_settles e t
    have settles : Settles t.maxRetries script.replies (settled script.replies) :=
      Spaced.settles (show Spaced t.maxRetries ([] ++ script.replies) from spaced) nofun
    have same := Walk.execute_like keeps turns request control
      (show Settles _ script.replies ({ script with replies := settled script.replies } : Script).replies
        from settles) kept
    generalize Walk.execute s turns request control script kept = f at same ⊢
    generalize Walk.execute s turns request control { script with replies := _ } kept = g at same ⊢
    cases same with
    | none => rfl
    | some like =>
      obtain ⟨service, _, rfl⟩ := like
      rfl
  · intro front last ends final
    rw [ends]
    exact settled_concat front final
  · intro f run
    have served := (Walk.trace_of_execute run).1.served
    rw [web] at served
    rw [← served]
    exact received_fetches _ script

namespace ScriptedList

theorem spaced_mended : Spaced settings.maxRetries mended.replies := by
  intro front failures answer rest same _ _
  have long := congrArg List.length same
  simp only [mended, List.length_cons, List.length_nil, List.length_append] at long
  change failures.length ≤ 1
  omega

/-- The trouble is dropped, and the message was sent twice. -/
theorem mended_settled :
    setting.operation = endpoint.operation settings Script.reached ∧
    Spaced settings.maxRetries mended.replies ∧
    settled mended.replies = [.response ⟨200, [], some (Text.toBytes "[1]")⟩] ∧
    ∃ f, Walk.execute setting 1 endpoint.request .automatic mended [] = some f ∧
      (Walk.execute setting 1 endpoint.request .automatic ⟨settled mended.replies, []⟩ []).map
        Walk.Finished.seen = some f.seen ∧
      f.outcome = ⟨.exhausted, 1, 1, none, none⟩ ∧
      f.standing.service.received = attempts 1 (settings.message (callOf endpoint endpoint.request)) ∧
      ∃ again : List Nat, again.length = (Walk.requests f.standing.events).length ∧
        (∀ times ∈ again, times ≤ settings.maxRetries) ∧
        f.standing.service.received =
          (List.zipWith attempts again ((Walk.requests f.standing.events).map fun request =>
            settings.message (callOf endpoint request))).flatten := by
  have ran : (Walk.execute setting 1 endpoint.request .automatic mended []).map
      (fun f => (f.outcome, f.standing.service.received)) =
        some (⟨.exhausted, 1, 1, none, none⟩,
          attempts 1 (settings.message (callOf endpoint endpoint.request))) := by decide +kernel
  obtain ⟨f, run, told⟩ := Option.map_eq_some_iff.mp ran
  obtain ⟨same, _, sent⟩ :=
    Endpoint.execute_settled (s := setting) rfl spaced_mended 1 endpoint.request .automatic []
  rw [run] at same
  exact ⟨rfl, spaced_mended, rfl, f, run, same.symm, congrArg Prod.fst told, congrArg Prod.snd told,
    sent f run⟩

end ScriptedList

end Pager
